import LanguageClient.Files.Fault

/-! # Faults

Why a value that came from outside was refused, and the words that say so. A fault ends the
call in which it arises; what the call had already done stays done. The words name the kinds
of values as `Json.kind` does.
-/

namespace LanguageClient

/-- Why a value was refused. -/
inductive Fault where
  /-- Text that is no integer; `shown` is the text in quotes. -/
  | malformedInteger (shown : Text)
  /-- An integer with more digits than are read. -/
  | tooManyDigits (count : Nat)
  /-- An integer with more digits than are written. -/
  | tooLongToWrite
  /-- Text with halves of pairs that stand by themselves, of which no bytes can be made: the first
      of them, its place, and how many there are from there on. -/
  | unencodable (first : Fin 0x800) (place count : Nat)
  /-- An infinite number where an integer is needed. -/
  | infiniteInteger
  /-- No number at all, as the result of an arithmetic fault, where an integer is needed. -/
  | undefinedInteger
  /-- A value of a kind that stands for no integer. -/
  | notAnInteger (kind : Text)
  /-- A request kind that does not exist. -/
  | unknownRequestKind (shown : Text)
  /-- A value without items where a list is needed. -/
  | withoutItems (kind : Text)
  /-- An item in a list of settings that is no pair. -/
  | notAPair (index : Nat)
  /-- An item in a list of settings that has more or fewer than two parts. -/
  | pairOfWrongLength (index length : Nat)
  /-- A value that cannot name a setting. -/
  | unusableName (kind : Text)
  /-- A path with a null character in it. -/
  | nullInPath
  /-- A home directory that nobody has. -/
  | noHome
  /-- A file that cannot even be looked for. -/
  | file (fault : FileFault) (path : Text)
  /-- JSON with too many containers around a place; `container` is the one too many. -/
  | nestedTooDeep (container : Text)
  /-- A value with too many containers around a place to be written. -/
  | writtenTooDeep
  /-- A value with too many containers around a place to be shown. -/
  | shownTooDeep
  /-- Settings with too many containers around a place to be copied. -/
  | copiedTooDeep
  /-- An integer beyond the range of the numbers with a fraction. -/
  | beyondRange
  /-- A wait of more milliseconds than can be waited for. -/
  | waitTooLong
  /-- A wait of more nanoseconds than are counted. -/
  | waitUncounted
  /-- A value that has no place among the integers where one is looked for. -/
  | notComparable (kind : Text)
  /-- A value that no time can be counted from. -/
  | notATime (kind : Text)
  /-- A value that numbers no item of a list. -/
  | notAnIndex (kind : Text)
  /-- A value without a length where a list is needed. -/
  | withoutLength (kind : Text)
  /-- A value without a part that is needed. -/
  | withoutPart (kind part : Text)
  /-- A number under which there is no entry. -/
  | missingEntry (number : Int)
  /-- A value that is no path. -/
  | notAPath (kind : Text)
  /-- A value that no text begins with. -/
  | notABeginning (kind : Text)
  /-- A number beyond those that descriptors have. -/
  | descriptorBeyondRange
  /-- A pipe that is closed already and has no descriptor any more. -/
  | closedPipe
  deriving Repr, DecidableEq, Inhabited

/-- Integers longer than this are neither read from text nor written. -/
def maxIntegerDigits : Nat := 4300

/-- Whether an integer is too long to be written. -/
def isTooLong (value : Int) : Bool :=
  maxIntegerDigits < (Nat.toDigits 10 value.natAbs).length

/-- The first halves of pairs, counted from `place` on, that are in the way of making bytes of code
    points. Those that `escapes` picks stand for bytes themselves. -/
def Text.unencodable? (escapes : Fin 0x800 → Bool) (place : Nat) : List CodePoint → Option Fault
  | [] => none
  | .scalar _ :: rest => unencodable? escapes (place + 1) rest
  | .surrogate first :: rest =>
    if escapes first then unencodable? escapes (place + 1) rest
    else some (.unencodable first place
      ((rest.takeWhile (fun point => !point.isScalar)).length + 1))

/-- How far calls can go from where they are made. Whatever is open inside of a call takes room on
    a stack, of which the calls around it have taken theirs; a program makes its calls from one
    place. -/
class Limits where
  /-- How many containers may be open at once in what is read. -/
  reading : Nat
  /-- How many containers may be open at once in what is written. -/
  writing : Nat
  /-- How many parts may be open at once in what is shown, those that hold nothing among them. -/
  showing : Nat
  /-- How many calls may be open at once while settings are copied. -/
  copying : Nat
  /-- There is room to read and to write a message in which nothing is nested. -/
  one_le_reading : 1 ≤ reading
  one_le_writing : 1 ≤ writing
  /-- There is room to copy the settings that come with the program. -/
  ten_le_copying : 10 ≤ copying
  /-- Messages are shown nearer to where calls are made than they are read. -/
  reading_lt_showing : reading < showing

namespace Limits.Usual

/-- The room that calls have which are made near the outside of a program. -/
scoped instance usual : Limits where
  reading := 988
  writing := 987
  showing := 992
  copying := 992
  one_le_reading := by decide
  one_le_writing := by decide
  ten_le_copying := by decide
  reading_lt_showing := by decide

end Limits.Usual

def Fault.message : Fault → Text
  | .malformedInteger shown => "invalid literal for int() with base 10: " ++ shown
  | .tooManyDigits count =>
    "Exceeds the limit (" ++ toString maxIntegerDigits ++
      " digits) for integer string conversion: value has " ++ toString count ++
      " digits; use sys.set_int_max_str_digits() to increase the limit"
  | .tooLongToWrite =>
    "Exceeds the limit (" ++ toString maxIntegerDigits ++ " digits) for integer string " ++
      "conversion; use sys.set_int_max_str_digits() to increase the limit"
  | .unencodable first place count =>
    "'utf-8' codec can't encode " ++
      (if count = 1 then
        "character '" ++ Text.ofList (Text.codeOf 'u' 4 (.surrogate first)) ++ "' in position " ++
          toString place
      else
        "characters in position " ++ toString place ++ "-" ++ toString (place + count - 1)) ++
      ": surrogates not allowed"
  | .infiniteInteger => "cannot convert float infinity to integer"
  | .undefinedInteger => "cannot convert float NaN to integer"
  | .notAnInteger kind =>
    "int() argument must be a string, a bytes-like object or a real number, not '" ++ kind ++ "'"
  | .unknownRequestKind shown => shown ++ " is not a valid RequestKind"
  | .withoutItems kind => "'" ++ kind ++ "' object is not iterable"
  | .notAPair index =>
    "cannot convert dictionary update sequence element #" ++ toString index ++ " to a sequence"
  | .pairOfWrongLength index length =>
    "dictionary update sequence element #" ++ toString index ++ " has length " ++
      toString length ++ "; 2 is required"
  | .unusableName kind => "unhashable type: '" ++ kind ++ "'"
  | .nullInPath => "embedded null byte"
  | .noHome => "Could not determine home directory."
  | .file fault path => fault.messageFor path
  | .nestedTooDeep container =>
    "maximum recursion depth exceeded while decoding a JSON " ++ container ++
      " from a unicode string"
  | .writtenTooDeep => "maximum recursion depth exceeded while encoding a JSON object"
  | .shownTooDeep => "maximum recursion depth exceeded while getting the repr of an object"
  | .copiedTooDeep => "maximum recursion depth exceeded while calling a Python object"
  | .beyondRange => "int too large to convert to float"
  | .waitTooLong => "timeout is too large"
  | .waitUncounted => "timestamp too large to convert to C _PyTime_t"
  | .notComparable kind =>
    "'<' not supported between instances of '" ++ kind ++ "' and 'int'"
  | .notATime kind => "unsupported operand type(s) for -: '" ++ kind ++ "' and 'int'"
  | .notAnIndex kind => "list indices must be integers or slices, not " ++ kind
  | .withoutLength kind => "object of type '" ++ kind ++ "' has no len()"
  | .withoutPart kind part => "'" ++ kind ++ "' object has no attribute '" ++ part ++ "'"
  | .missingEntry number => toString number
  | .notAPath kind => "expected str, bytes or os.PathLike object, not " ++ kind
  | .notABeginning kind =>
    "startswith first arg must be str or a tuple of str, not " ++ kind
  | .descriptorBeyondRange => "Python int too large to convert to C int"
  | .closedPipe => "I/O operation on closed file"

end LanguageClient

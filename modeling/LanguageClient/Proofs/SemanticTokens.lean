import LanguageClient.SemanticTokens
import Mathlib.Algebra.Ring.Int.Defs
import Mathlib.Data.List.Induction

/-! # Semantic tokens in closed form

Decoding runs over the groups of a row and carries the place of the last token along. What it gives
depends on sums alone: a line is the sum of the steps downwards so far, a column the sum of the
steps to the right since the last step downwards.
-/

namespace LanguageClient

namespace TokenType

theorem unknown_not_announced : unknown ∉ announced := by decide

theorem ofName_ne_unknown_iff {text : Text} :
    ofName text ≠ unknown ↔ text ∈ announced.map name := by
  unfold ofName
  cases found : announced.find? (fun type => type.name = text) with
  | none => simp_all
  | some type =>
      have named : type.name = text := by simpa using List.find?_some found
      have isAnnounced : type ∈ announced := List.mem_of_find?_eq_some found
      refine iff_of_true ?_ (List.mem_map.mpr ⟨type, isAnnounced, named⟩)
      rintro rfl
      exact unknown_not_announced isAnnounced

end TokenType

namespace SemanticToken

/-! ## Rows and groups -/

/-- The five integers of a token. -/
structure Group where
  deltaLine : Int
  deltaCol : Int
  length : Int
  index : Int
  modifiers : Int

def Group.values (group : Group) : List Int :=
  [group.deltaLine, group.deltaCol, group.length, group.index, group.modifiers]

theorem exists_groups : ∀ row : List Int, 5 ∣ row.length →
    ∃ groups : List Group, row = groups.flatMap Group.values
  | [], _ => ⟨[], rfl⟩
  | deltaLine :: deltaCol :: length :: index :: modifiers :: rest, fits => by
      obtain ⟨groups, rfl⟩ := exists_groups rest (by simp only [List.length_cons] at fits; omega)
      exact ⟨⟨deltaLine, deltaCol, length, index, modifiers⟩ :: groups, rfl⟩
  | [_], fits | [_, _], fits | [_, _, _], fits | [_, _, _, _], fits => by simp at fits

/-- A value is an array of such integers and of nothing else, in groups of five. -/
def IsRow (data : Json) (row : List Int) : Prop :=
  data = .arr (row.map .int) ∧ row ≠ [] ∧ 5 ∣ row.length

theorem integers?_eq_some_iff {items : List Json} {row : List Int} :
    integers? items = some row ↔ items = row.map .int := by
  fun_induction integers? items generalizing row with
  | case1 => cases row <;> simp
  | case2 value rest ih => cases row <;> simp [ih, and_comm]
  | case3 item rest other =>
      cases row with
      | nil => simp
      | cons value row => simpa using fun same => absurd same (other value)

variable {data : Json} {row : List Int}

theorem rowOf_row (isRow : IsRow data row) : rowOf data = row := by
  obtain ⟨rfl, _, fits⟩ := isRow
  have read : integers? (row.map .int) = some row := integers?_eq_some_iff.mpr rfl
  simp [rowOf, Json.items?, read, Nat.mod_eq_zero_of_dvd fits]

/-- What is read of a value is its row, if it is anything. -/
theorem isRow_rowOf (something : rowOf data ≠ []) : IsRow data (rowOf data) := by
  unfold rowOf at something ⊢
  split at something
  · next values read =>
      split at something
      · next fits =>
          obtain ⟨items, isArr, isInt⟩ := Option.bind_eq_some_iff.mp read
          cases data <;>
            simp_all [Json.items?, IsRow, integers?_eq_some_iff, Nat.dvd_of_mod_eq_zero]
      · contradiction
  · contradiction

/-! ## Places -/

/-- Where the token in front stands. -/
structure Cursor where
  line : Int
  col : Int

/-- The place of a token, by that of the token in front. -/
def Group.from (group : Group) (cursor : Cursor) : Cursor :=
  if group.deltaLine > 0 then ⟨cursor.line + group.deltaLine, group.deltaCol⟩
  else ⟨cursor.line, cursor.col + group.deltaCol⟩

/-- The place of the last of some tokens. -/
def Cursor.behind (start : Cursor) (groups : List Group) : Cursor :=
  groups.foldl (fun cursor group => group.from cursor) start

def Group.token (group : Group) (legend : List Text) (cursor : Cursor) : SemanticToken :=
  { line := cursor.line, col := cursor.col, length := group.length,
    type := .ofName (legendName legend group.index), typeName := legendName legend group.index }

variable {legend : List Text}

theorem decodeFrom_values (group : Group) (cursor : Cursor) (row : List Int) :
    decodeFrom legend cursor.line cursor.col (group.values ++ row) =
      group.token legend (group.from cursor) ::
        decodeFrom legend (group.from cursor).line (group.from cursor).col row := by
  unfold Group.values Group.from
  split <;> simp [decodeFrom, Group.token, *]

theorem length_decodeFrom (groups : List Group) (cursor : Cursor) :
    (decodeFrom legend cursor.line cursor.col (groups.flatMap Group.values)).length =
      groups.length := by
  induction groups generalizing cursor with
  | nil => rfl
  | cons group groups ih => simp [decodeFrom_values, ih]

theorem getElem?_decodeFrom (before : List Group) (own : Group) (after : List Group)
    (cursor : Cursor) :
    (decodeFrom legend cursor.line cursor.col
        ((before ++ own :: after).flatMap Group.values))[before.length]? =
      some (own.token legend (cursor.behind (before ++ [own]))) := by
  induction before generalizing cursor with
  | nil => simp [decodeFrom_values, Cursor.behind]
  | cons group before ih => simpa [decodeFrom_values, Cursor.behind] using ih (group.from cursor)

/-- No token stands in a line above the one in front. -/
theorem lines_decodeFrom (legend : List Text) (line col : Int) (row : List Int) :
    (∀ token ∈ decodeFrom legend line col row, line ≤ token.line) ∧
      (decodeFrom legend line col row).Pairwise (·.line ≤ ·.line) := by
  fun_induction decodeFrom legend line col row with
  | case1 line col deltaLine deltaCol length index modifiers rest below right typeName ih =>
      have down : line ≤ below := by grind
      obtain ⟨lower, inOrder⟩ := ih
      refine ⟨?_, List.pairwise_cons.mpr ⟨lower, inOrder⟩⟩
      simp only [List.mem_cons, forall_eq_or_imp]
      exact ⟨down, fun token member => Int.le_trans down (lower token member)⟩
  | case2 => simp

/-! ## Sums -/

/-- The steps downwards in sum. -/
def lineSum (groups : List Group) : Int :=
  ((groups.map Group.deltaLine).filter (0 < ·)).sum

/-- The steps to the right in sum, from the last group on that steps downwards, or from the first
    group on where none does. -/
def ColSum (groups : List Group) (col : Int) : Prop :=
  ∃ above first rest, groups = above ++ first :: rest ∧ (above = [] ∨ 0 < first.deltaLine) ∧
    (∀ group ∈ rest, group.deltaLine ≤ 0) ∧ col = ((first :: rest).map Group.deltaCol).sum

theorem behind_snoc (start : Cursor) (groups : List Group) (group : Group) :
    start.behind (groups ++ [group]) = group.from (start.behind groups) := by
  simp [Cursor.behind]

theorem line_behind (groups : List Group) :
    (Cursor.behind ⟨0, 0⟩ groups).line = lineSum groups := by
  induction groups using List.reverseRecOn with
  | nil => rfl
  | append_singleton groups group ih =>
      rw [behind_snoc, Group.from, lineSum, List.map_append, List.filter_append, List.sum_append]
      split <;> simp_all [lineSum]

theorem col_behind (groups : List Group) (group : Group) :
    ColSum (groups ++ [group]) (Cursor.behind ⟨0, 0⟩ (groups ++ [group])).col := by
  induction groups using List.reverseRecOn generalizing group with
  | nil => exact ⟨[], group, [], rfl, .inl rfl, by simp, by grind [Cursor.behind, Group.from]⟩
  | append_singleton groups last ih =>
      rw [behind_snoc, Group.from]
      split
      · next down => exact ⟨groups ++ [last], group, [], rfl, .inr down, by simp, by simp⟩
      · next level =>
          obtain ⟨above, first, rest, split, begins, lasting, sum⟩ := ih last
          refine ⟨above, first, rest ++ [group], by simp [split], begins, ?_, ?_⟩
          · grind
          · simp [sum, Int.add_assoc]

/-! ## Tokens -/

/-- A token by the groups in front of its own and its own. -/
structure Described (legend : List Text) (before : List Group) (own : Group)
    (token : SemanticToken) : Prop where
  line : token.line = lineSum (before ++ [own])
  col : ColSum (before ++ [own]) token.col
  length : token.length = own.length
  named : 0 ≤ own.index → own.index < legend.length →
    legend[own.index.toNat]? = some token.typeName
  nameless : own.index < 0 ∨ legend.length ≤ own.index → token.typeName = ""
  type : token.type ≠ .unknown ↔ token.typeName ∈ TokenType.announced.map TokenType.name

theorem described_token (before : List Group) (own : Group) :
    Described legend before own
      (own.token legend (Cursor.behind ⟨0, 0⟩ (before ++ [own]))) where
  line := line_behind _
  col := col_behind before own
  length := rfl
  named nonneg less := by
    have inside : own.index.toNat < legend.length := by omega
    simp [Group.token, legendName, nonneg, inside]
  nameless outside := by
    rcases outside with negative | beyond
    · simp [Group.token, legendName, Int.not_le.mpr negative]
    · have outside : legend.length ≤ own.index.toNat := by omega
      simp [Group.token, legendName, outside]
  type := TokenType.ofName_ne_unknown_iff

/-- What is no row describes no token. A row describes one token for each of its groups, by the
    sums up to that group, and the lines never decrease. -/
theorem decode_described (data : Json) (legend : List Text) :
    ((¬∃ row, IsRow data row) → decode data legend = []) ∧
    (∀ row, IsRow data row → ∃ groups : List Group, row = groups.flatMap Group.values ∧
      (decode data legend).length = groups.length ∧
      ∀ before own after, groups = before ++ own :: after →
        ∃ token, (decode data legend)[before.length]? = some token ∧
          Described legend before own token) ∧
    (decode data legend).Pairwise (·.line ≤ ·.line) := by
  refine ⟨?_, ?_, (lines_decodeFrom legend 0 0 (rowOf data)).2⟩
  · intro noRow
    have nothing : rowOf data = [] := by
      by_contra something
      exact noRow ⟨_, isRow_rowOf something⟩
    simp [decode, nothing, decodeFrom]
  · intro row isRow
    obtain ⟨groups, rfl⟩ := exists_groups row isRow.2.2
    rw [decode, rowOf_row isRow]
    refine ⟨groups, rfl, length_decodeFrom groups ⟨0, 0⟩, ?_⟩
    rintro before own after rfl
    exact ⟨_, getElem?_decodeFrom before own after ⟨0, 0⟩, described_token before own⟩

example : decode (.arr ([2, 5, 1, 0, 0, 0, 3, 2, 1, 0, 1, 4, 1, 9, 0].map .int))
      ["variable", "rune"] =
    [{ line := 2, col := 5, length := 1, type := .variableName, typeName := "variable" },
      { line := 2, col := 8, length := 2, type := .unknown, typeName := "rune" },
      { line := 3, col := 4, length := 1, type := .unknown, typeName := "" }] := by
  decide

end SemanticToken

end LanguageClient

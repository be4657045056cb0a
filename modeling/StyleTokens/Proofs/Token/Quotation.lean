import StyleTokens.Proofs.Token.Shift

/-! Any text can be an argument. Written in quotes, with a backslash before each backslash and each
quote of the chosen kind, it is read back as it was, whatever stands around the token: the arguments
may hold commas, parentheses, quotes and `$` signs. -/

set_option autoImplicit false

namespace StyleTokens

open Text (isBlank)
open Quoted (Piece writtenBody)

/-! ### Quoted arguments -/

namespace Quoted

variable {mark : Char}

def piece (mark c : Char) : Piece := if isPlain mark c then .plain c else .escaped c

theorem piece_fits (mark c : Char) : (piece mark c).Fits mark := by
  unfold piece
  split
  · next plain => simpa [isPlain, Piece.Fits] using plain
  · trivial

@[simp] theorem char_piece (mark c : Char) : (piece mark c).char = c := by
  unfold piece
  split <;> rfl

theorem write_eq_writtenBody (mark : Char) (content : List Char) :
    write mark content = mark :: (writtenBody (content.map (piece mark)) ++ [mark]) := by
  have written : ∀ c, (piece mark c).written = if isPlain mark c then [c] else ['\\', c] := by
    intro c
    unfold piece
    split <;> rfl
  simp [write, writtenBody, List.flatMap_map, written]

end Quoted

/-- An argument to be written in quotes, and the blanks around it. -/
structure Quotation where
  before : List Char
  mark : Char
  content : String
  after : List Char
  blank_before : ∀ c ∈ before, isBlank c
  quote : IsQuote mark
  blank_after : ∀ c ∈ after, isBlank c

namespace Quotation

def written (quotation : Quotation) : List Char :=
  quotation.before ++ Quoted.write quotation.mark quotation.content.toList ++ quotation.after

def item (quotation : Quotation) : Item :=
  .quoted quotation.before quotation.mark
    (quotation.content.toList.map (Quoted.piece quotation.mark)) quotation.after

theorem fits_item (quotation : Quotation) : quotation.item.Fits := by
  refine ⟨quotation.blank_before, quotation.quote, ?_, quotation.blank_after⟩
  intro piece found
  obtain ⟨c, -, rfl⟩ := List.mem_map.1 found
  exact Quoted.piece_fits ..

theorem written_item (quotation : Quotation) : quotation.item.written = quotation.written := by
  simp [item, written, Item.written, Item.before, Item.core, Quoted.write_eq_writtenBody]

theorem arg_item (quotation : Quotation) : quotation.item.arg = quotation.content.toList := by
  simp [item, Item.arg, Function.comp_def]

end Quotation

theorem writtenItems_item (first : Quotation) (more : List Quotation) :
    writtenItems first.item (more.map Quotation.item) =
      [','].intercalate ((first :: more).map Quotation.written) := by
  induction more generalizing first with
  | nil => simp [writtenItems, first.written_item]
  | cons second more ih =>
    rw [List.map_cons, writtenItems, ih, first.written_item, List.map_cons, List.map_cons,
      List.map_cons, List.intercalate_cons_cons, List.append_assoc]
    rfl

/-! ### Invocations -/

theorem bounds_of_isNameChar {c : Char} (named : isNameChar c) : 33 ≤ c.toNat ∧ c.toNat ≤ 122 := by
  delta isNameChar Char.isAlphanum Char.isAlpha Char.isUpper Char.isLower Char.isDigit at named
  simp only [Bool.or_eq_true, Bool.and_eq_true, decide_eq_true_eq, beq_iff_eq, ge_iff_le,
    UInt32.le_iff_toNat_le] at named
  rcases named with ((((((⟨low, high⟩ | ⟨low, high⟩) | ⟨low, high⟩) | rfl) | rfl) | rfl) | rfl)
  · exact ⟨Nat.le_trans (by decide) low, Nat.le_trans high (by decide)⟩
  · exact ⟨Nat.le_trans (by decide) low, Nat.le_trans high (by decide)⟩
  · exact ⟨Nat.le_trans (by decide) low, Nat.le_trans high (by decide)⟩
  all_goals decide

-- Blanks come before the characters of names or after them in the order of code points.
theorem isNameChar_of_isBlank {c : Char} (blank : isBlank c) : isNameChar c = false := by
  rw [Bool.eq_false_iff]
  intro named
  have bounds := bounds_of_isNameChar named
  simp only [isBlank, Text.inRanges, Text.blankRanges, List.any_cons, List.any_nil, Bool.or_eq_true,
    Bool.and_eq_true, decide_eq_true_eq, Bool.false_eq_true, or_false] at blank
  omega

/-- A token to be written, with a name of one segment or more and with one quoted argument or
more. -/
structure Invocation where
  segments : List String
  gap : List Char
  first : Quotation
  more : List Quotation
  named : segments ≠ []
  segment : ∀ segment ∈ segments, segment ≠ "" ∧ ∀ c ∈ segment.toList, isNameChar c ∧ c ≠ '.'
  blank_gap : ∀ c ∈ gap, isBlank c

namespace Invocation

def name (invocation : Invocation) : List Char :=
  ['.'].intercalate (invocation.segments.map String.toList)

def quotations (invocation : Invocation) : List Quotation := invocation.first :: invocation.more

def written (invocation : Invocation) : List Char :=
  '$' :: (invocation.name ++ invocation.gap ++
    '(' :: ([','].intercalate (invocation.quotations.map Quotation.written) ++ [')']))

def form (invocation : Invocation) (suffix : Option Char) : Form where
  name := invocation.name
  params := .listed invocation.gap invocation.first.item (invocation.more.map Quotation.item)
  suffix

theorem written_form (invocation : Invocation) (suffix : Option Char) :
    (invocation.form suffix).written = invocation.written ++ suffix.toList := by
  simp [form, Form.written, Form.tail, Params.written, writtenItems_item, written, quotations]

theorem splitOn_name (invocation : Invocation) :
    invocation.name.splitOn '.' = invocation.segments.map String.toList := by
  apply List.splitOn_intercalate
  · intro part found dot
    obtain ⟨segment, inside, rfl⟩ := List.mem_map.1 found
    exact ((invocation.segment segment inside).2 '.' dot).2 rfl
  · simpa using invocation.named

theorem isNameChar_of_mem_name (invocation : Invocation) : ∀ c ∈ invocation.name, isNameChar c := by
  intro c found
  obtain rfl | ⟨part, inside, found⟩ := Text.mem_intercalate found
  · decide
  · obtain ⟨segment, listed, rfl⟩ := List.mem_map.1 inside
    exact ((invocation.segment segment listed).2 c found).1

theorem stops_tail (invocation : Invocation) (suffix : Option Char) (rest : List Char) :
    Text.Stops isNameChar ((invocation.form suffix).tail ++ rest) := by
  have blank := invocation.blank_gap
  cases gap : invocation.gap with
  | nil =>
    have opening : isNameChar '(' = false := by decide
    simpa [form, Form.tail, Params.written, gap] using opening
  | cons c more =>
    rw [gap] at blank
    simpa [form, Form.tail, Params.written, gap] using
      isNameChar_of_isBlank (blank c List.mem_cons_self)

theorem fits_form (invocation : Invocation) {suffix : Option Char} {rest : List Char}
    (blank : ∀ c ∈ suffix, isBlank c) (noSuffix : suffix = none → Text.Stops isBlank rest) :
    (invocation.form suffix).Fits rest where
  name := invocation.isNameChar_of_mem_name
  longest := invocation.stops_tail suffix rest
  segments := by
    intro part found
    change part ∈ invocation.name.splitOn '.' at found
    rw [splitOn_name] at found
    obtain ⟨segment, inside, rfl⟩ := List.mem_map.1 found
    simpa using (invocation.segment segment inside).1
  params := by
    refine ⟨invocation.blank_gap, ?_⟩
    rw [← List.map_cons]
    intro item found
    obtain ⟨quotation, -, rfl⟩ := List.mem_map.1 found
    exact quotation.fits_item
  suffix := blank
  noSuffix := noSuffix

theorem path_token (invocation : Invocation) (suffix : Option Char) (start : Nat) :
    ((invocation.form suffix).token start).path = invocation.segments := by
  change (invocation.name.splitOn '.').map String.ofList = invocation.segments
  rw [splitOn_name, List.map_map]
  simp [Function.comp_def]

theorem args_token (invocation : Invocation) (suffix : Option Char) (start : Nat) :
    ((invocation.form suffix).token start).args =
      invocation.quotations.map Quotation.content := by
  simp [Form.token, form, Params.args, quotations, Quotation.arg_item, Function.comp_def]

end Invocation

theorem readSuffix_eq_filter (text : List Char) :
    ∃ rest, readSuffix text = (text.head?.filter isBlank, rest) := by
  cases text with
  | nil => exact ⟨[], rfl⟩
  | cons c rest => by_cases blank : isBlank c <;> simp [readSuffix, Option.filter, blank]

/-- A token with quoted arguments is read back after any text without `$` and before any text at
all; nothing within it is taken for another token. -/
theorem scan_invocation (invocation : Invocation) (before following : String)
    (none : '$' ∉ before.toList) :
    let suffix := following.toList.head?.filter isBlank
    ∃ token later,
      scan (before ++ String.ofList invocation.written ++ following) = .ok token :: later ∧
        token.start = before.length ∧
        token.stop = before.length + invocation.written.length + suffix.toList.length ∧
        token.raw = String.ofList (invocation.written ++ suffix.toList) ∧
        token.path = invocation.segments ∧
        token.args = invocation.quotations.map Quotation.content ∧
        token.suffix = suffix ∧
        ∀ scanned ∈ later, token.stop ≤ (scannedToken scanned).start := by
  intro suffix
  obtain ⟨rest, read⟩ := readSuffix_eq_filter following.toList
  obtain ⟨whole, blank, noSuffix⟩ := written_of_readSuffix read
  have text : before ++ String.ofList invocation.written ++ following =
      String.ofList (before.toList ++ (invocation.form suffix).written ++ rest) := by
    rw [← String.toList_inj, invocation.written_form]
    simp only [String.toList_append, String.toList_ofList, List.append_assoc]
    rw [← whole]
  have found := scan_of_fits (plain_of_not_mem none) (invocation.fits_form blank noSuffix)
  rw [← text, String.length_toList] at found
  have reads := Scanner.reads_ofString (before ++ String.ofList invocation.written ++ following)
  have tiles := reads.tiles
  refine ⟨_, _, found, rfl, ?_, ?_, invocation.path_token .., invocation.args_token .., rfl, ?_⟩
  · change before.length + (invocation.form suffix).written.length = _
    rw [invocation.written_form, List.length_append, Nat.add_assoc]
  · exact congrArg String.ofList (invocation.written_form suffix)
  · intro scanned inside
    change Tiles _ _ ((scan _).map scannedToken) at tiles
    rw [found, List.map_cons] at tiles
    exact (List.pairwise_cons.1 tiles.ordered).1 _ (List.mem_map_of_mem inside)

def sampleInvocation : Invocation where
  segments := ["a-b", "d$e"]
  gap := [' ']
  first := ⟨[], '\'', "it's \\", [' '], by simp, by decide, List.all_eq_true.1 (by decide)⟩
  more := [⟨['\n'], '"', "$x,\")(", [], List.all_eq_true.1 (by decide), by decide, by simp⟩]
  named := by simp
  segment := by
    have named : ["a-b", "d$e"].all fun segment =>
        segment != "" && segment.toList.all fun c => isNameChar c && c != '.' := by decide
    simpa only [List.all_eq_true, Bool.and_eq_true, bne_iff_ne] using named
  blank_gap := List.all_eq_true.1 (by decide)

theorem scan_sampleInvocation :
    let text := "x $a-b.d$e ('it\\'s \\\\' ,\n\"$x,\\\")(\") $y"
    '$' ∉ "x ".toList ∧
      text = "x " ++ String.ofList sampleInvocation.written ++ " $y" ∧
      ∃ token later, scan text = .ok token :: later ∧ token.start = 2 ∧
        token.path = ["a-b", "d$e"] ∧ token.args = ["it's \\", "$x,\")("] ∧
        token.suffix = some ' ' := by
  intro text
  have none : '$' ∉ "x ".toList := by decide
  have written : text = "x " ++ String.ofList sampleInvocation.written ++ " $y" := by
    decide +kernel
  obtain ⟨token, later, found, start, -, -, path, args, suffix, -⟩ :=
    scan_invocation sampleInvocation "x " " $y" none
  refine ⟨none, written, token, later, written ▸ found, start, path, args, ?_⟩
  rw [suffix]
  decide

end StyleTokens

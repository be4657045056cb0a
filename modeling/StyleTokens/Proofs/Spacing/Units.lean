import StyleTokens.Proofs.Substitution.Record
import StyleTokens.Proofs.Token.Normal
import StyleTokens.Proofs.Token.Quotation
import StyleTokens.Proofs.Value.Collisions

/-! Units of spacings. What is stored for a name takes its unit from the first argument, with blanks
around it or without, and from the default where there is none. So all ways to write a token that
ask for the default unit are replaced by one text. -/

set_option autoImplicit false

namespace StyleTokens

variable {σ τ : Type}

/-! ### A token as the whole source -/

theorem scan_form {form : Form} (fits : form.Fits []) :
    scan (String.ofList form.written) = [.ok (form.token 0)] := by
  have whole := scan_of_fits (List.forall_mem_nil _) fits
  rw [List.nil_append, List.append_nil] at whole
  rw [whole]
  exact congrArg _ (Scanner.all_of_empty rfl)

/-- A source whose normal form is one token is replaced by what takes the place of the token. -/
theorem substituteBy_form {normalize : String → String} {text : String} {form : Form}
    (normal : normalize text = String.ofList form.written) (fits : form.Fits [])
    {layers : List (Value σ)} {host host' : σ} {result : List Char}
    (replaced : replacement layers (form.token 0) host = (.ok result, host')) (config : Config τ)
    (state : τ) :
    substituteBy normalize layers text config host state =
      (.ok ⟨String.ofList result, []⟩, host', state) := by
  have tried : attempt layers host (.ok (form.token 0)) = (form.token 0, .ok result, host') :=
    congrArg (Prod.mk (form.token 0)) replaced
  have whole : splice form.written (form.token 0) result = result := by
    simp [splice, Form.token]
  simp only [substituteBy, normal, scan_form fits, List.reverse_singleton, settle_of_ok tried,
    settle_nil, String.toList_ofList, whole]

namespace Spacing

/-! ### The callable of one size -/

/-- The names of the units. -/
def units : List String := ["rem", "em", "px", "pt", "pc", "in", "cm", "mm"]

theorem ofName?_eq_none_iff {unit : String} : LengthUnit.ofName? unit = none ↔ unit ∉ units := by
  unfold LengthUnit.ofName?
  split <;> simp_all [units]

/-- The number of a size in a unit. -/
def number (options : Options) (pixels : Float) (unit : String) : Float :=
  ((LengthUnit.ofName? unit).map (convert options.base pixels)).getD 0

theorem length_of_mem {unit : String} (known : unit ∈ units) (name : String) (options : Options)
    (pixels : Float) :
    length name options.base pixels unit =
      .ok (lengthLayout.write (number options pixels unit) ++ unit) := by
  rw [length, number]
  cases found : LengthUnit.ofName? unit with
  | none => exact absurd known (ofName?_eq_none_iff.1 found)
  | some known => rfl

theorem length_of_not_mem {unit : String} (unknown : unit ∉ units) (name : String)
    (base pixels : Float) :
    length name base pixels unit =
      .error ⟨"spacing format not supported '" ++ name ++ "(" ++ unit ++ ")'", []⟩ := by
  rw [length, ofName?_eq_none_iff.2 unknown]

theorem lookup_layer {options : Options} {sizes : List (String × Float)} {name : String}
    {pixels : Float} (sized : sizes.reverse.lookup name = some pixels)
    (below : List (Value σ)) :
    lookup (layer options sizes :: below) [name] = some (entry options name pixels) := by
  have alone := Value.lookup_ofEntries (σ := σ) (sizes.map (convertEntry (entry options))) name
  rw [← List.map_reverse, lookup_map_convertEntry, sized] at alone
  exact lookup_append_of_some alone below

/-! ### Ways to write a token -/

/-- Sources that are one token and ask for the unit with its name, or for none. The blanks are spaces,
and more arguments may be any that a token can have. -/
inductive Spelling (name unit : String) : String → Prop where
  | plain : Spelling name unit ("$" ++ name)
  | empty : Spelling name unit ("$" ++ name ++ "()")
  | bare : Spelling name unit ("$" ++ name ++ "(" ++ unit ++ ")")
  | spaced : Spelling name unit ("$" ++ name ++ "( " ++ unit ++ " )")
  | single : Spelling name unit ("$" ++ name ++ "('" ++ unit ++ "')")
  | double : Spelling name unit ("$" ++ name ++ "(\" " ++ unit ++ " \")")
  | further {first : Item} {more : List Item} (fits : ∀ item ∈ first :: more, item.Fits) :
      Spelling name unit ("$" ++ name ++ "(" ++ unit ++ "," ++
        String.ofList (writtenItems first more) ++ ")")

/-- A name that can be a segment of a path. -/
def IsSegment (name : String) : Prop := name ≠ "" ∧ ∀ c ∈ name.toList, isNameChar c ∧ c ≠ '.'

instance (name : String) : Decidable (IsSegment name) :=
  decidable_of_iff (name ≠ "" ∧ name.toList.all fun c => isNameChar c && c != '.') (by
    simp only [IsSegment, List.all_eq_true, Bool.and_eq_true, bne_iff_ne])

section

variable {name unit : String}

theorem low_of_isSegment (segment : IsSegment name) : ∀ c ∈ name.toList, c.toNat < 0xC0 := by
  intro c inside
  have bounds := bounds_of_isNameChar (segment.2 c inside).1
  omega

theorem splitOn_of_isSegment (segment : IsSegment name) :
    name.toList.splitOn '.' = [name.toList] :=
  List.splitOn_eq_singleton fun inside => (segment.2 '.' inside).2 rfl

theorem fits_of_isSegment (segment : IsSegment name) {params : Params} (fits : params.Fits [])
    (stops : Text.Stops isNameChar params.written) : Form.Fits ⟨name.toList, params, none⟩ [] where
  name c inside := (segment.2 c inside).1
  longest := by simpa [Form.tail] using stops
  segments := by
    rw [splitOn_of_isSegment segment]
    simpa using segment.1
  params := fits
  suffix := by simp
  noSuffix _ := Text.stops_nil

/-- The characters of units are letters. -/
theorem units_plain : ∀ unit ∈ units, unit.toList ≠ [] ∧ ∀ c ∈ unit.toList,
    c.toNat < 0xC0 ∧ Text.isBlank c = false ∧ ¬IsQuote c ∧ ¬EndsItem c ∧ c ≠ '\\' := by
  have checked : ∀ unit ∈ units, unit.toList ≠ [] ∧ unit.toList.all fun c =>
      c.toNat < 0xC0 ∧ Text.isBlank c = false ∧ ¬IsQuote c ∧ ¬EndsItem c ∧ c ≠ '\\' := by
    decide
  simpa only [List.all_eq_true, decide_eq_true_eq] using checked

theorem trim_units : ∀ unit ∈ units, Text.trim unit = unit ∧ Text.trim (unit ++ " ") = unit ∧
    Text.trim (" " ++ unit ++ " ") = unit := by
  decide

/-- A run of plain characters, as the body of a quoted argument. -/
def plainBody (run : List Char) : List Quoted.Piece := run.map .plain

theorem written_plainBody (run : List Char) : Quoted.writtenBody (plainBody run) = run := by
  induction run with
  | nil => rfl
  | cons c run ih => exact congrArg (c :: ·) ih

theorem char_plainBody (run : List Char) : (plainBody run).map Quoted.Piece.char = run := by
  simp [plainBody, Function.comp_def, Quoted.Piece.char]

theorem fits_bare (known : unit ∈ units) : (Item.bare [] unit.toList).Fits := by
  obtain ⟨filled, letters⟩ := units_plain unit known
  refine ⟨List.forall_mem_nil _, filled, fun c inside => (letters c inside).2.2.2.1, ?_⟩
  intro c first
  have letter := letters c (List.mem_of_mem_head? first)
  exact ⟨letter.2.1, letter.2.2.1⟩

theorem fits_spaced (known : unit ∈ units) : (Item.bare [' '] (unit.toList ++ [' '])).Fits := by
  obtain ⟨filled, letters⟩ := units_plain unit known
  refine ⟨List.all_eq_true.1 (by decide), List.append_ne_nil_of_left_ne_nil filled _, ?_, ?_⟩
  · intro c inside
    rcases List.mem_append.1 inside with inside | inside
    · exact (letters c inside).2.2.2.1
    · rw [List.mem_singleton.1 inside]
      decide
  · intro c first
    rw [List.head?_append_of_ne_nil _ filled] at first
    have letter := letters c (List.mem_of_mem_head? first)
    exact ⟨letter.2.1, letter.2.2.1⟩

theorem fits_quoted {mark : Char} (quote : IsQuote mark) {run : List Char}
    (plain : ∀ c ∈ run, ¬IsQuote c ∧ c ≠ '\\') : (Item.quoted [] mark (plainBody run) []).Fits := by
  refine ⟨List.forall_mem_nil _, quote, ?_, List.forall_mem_nil _⟩
  intro piece inside
  obtain ⟨c, among, rfl⟩ := List.mem_map.1 inside
  exact ⟨fun same => (plain c among).1 (same ▸ quote), (plain c among).2⟩

/-- The source that is a token with these parameters. -/
def source (name : String) (params : Params) : String :=
  String.ofList (Form.written ⟨name.toList, params, none⟩)

theorem toList_source (name : String) (params : Params) :
    (source name params).toList = '$' :: (name.toList ++ params.written) := by
  simp [source, Form.written, Form.tail]

theorem normalize_source (segment : IsSegment name) {params : Params}
    (low : ∀ c ∈ params.written, c.toNat < 0xC0) :
    Text.normalize (source name params) = source name params := by
  apply Text.normalize_of_latin
  intro c inside
  rw [toList_source, List.mem_cons, List.mem_append] at inside
  rcases inside with rfl | inside | inside
  · decide
  · exact Nat.lt_trans (low_of_isSegment segment c inside) (by decide)
  · exact Nat.lt_trans (low c inside) (by decide)

/-- What a source has to be for its token to ask for the unit. -/
structure Asks (name unit text : String) (params : Params) : Prop where
  fits : params.Fits []
  stops : Text.Stops isNameChar params.written
  normal : Text.normalize text = source name params
  unit : ∀ options : Options, options.defaultUnit = unit →
    unitOf options (params.args.map String.ofList) = unit

theorem asks_listed {text : String} {first : Item} {more : List Item}
    (fits : ∀ item ∈ first :: more, item.Fits)
    (normal : Text.normalize text = source name (.listed [] first more))
    (trimmed : Text.trim (String.ofList first.arg) = unit) :
    Asks name unit text (.listed [] first more) where
  fits := ⟨List.forall_mem_nil _, fits⟩
  stops := Text.stops_cons.2 (by decide)
  normal := normal
  unit := fun _ _ => trimmed

/-- One argument, written with the unit in it. -/
theorem asks_item (segment : IsSegment name) (known : unit ∈ units) {item : Item} (fits : item.Fits)
    (trimmed : Text.trim (String.ofList item.arg) = unit) (front back : List Char)
    (written : item.written = front ++ (unit.toList ++ back))
    (low : (front ++ back).all (·.toNat < 0xC0)) {text : String}
    (whole : text.toList = '$' :: (name.toList ++ '(' :: (front ++ (unit.toList ++ (back ++ [')']))))) :
    Asks name unit text (.listed [] item []) := by
  have same : text = source name (.listed [] item []) := by
    rw [← String.toList_inj, toList_source, whole, Params.written, writtenItems, written]
    simp
  refine asks_listed (by simpa using fits) ?_ trimmed
  rw [same]
  apply normalize_source segment
  intro c inside
  have parts : c = '(' ∨ c ∈ front ++ back ∨ c ∈ unit.toList ∨ c = ')' := by
    simp only [Params.written, writtenItems, written, List.nil_append, List.mem_cons,
      List.mem_append, List.not_mem_nil, or_false] at inside ⊢
    tauto
  rcases parts with rfl | inside | inside | rfl
  · decide
  · exact of_decide_eq_true (List.all_eq_true.1 low c inside)
  · exact ((units_plain unit known).2 c inside).1
  · decide

/-- More arguments behind that of the unit, which need not be what they are in the normal form. -/
theorem asks_further (segment : IsSegment name) (known : unit ∈ units) {first : Item}
    {more : List Item} (fits : ∀ item ∈ first :: more, item.Fits) (alone : Text.trim unit = unit) :
    ∃ params, Asks name unit ("$" ++ name ++ "(" ++ unit ++ "," ++
      String.ofList (writtenItems first more) ++ ")") params := by
  have low : ∀ c ∈ '$' :: (name.toList ++ '(' :: unit.toList), c.toNat < 0xC0 := by
    simp only [List.forall_mem_cons, List.forall_mem_append]
    exact ⟨by decide, low_of_isSegment segment, by decide,
      fun c inside => ((units_plain unit known).2 c inside).1⟩
  obtain ⟨first', more', fits', same⟩ := normalForm_written low fits
  have trimmed : Text.trim (String.ofList (Item.bare [] unit.toList).arg) = unit := by
    simpa [Item.arg] using alone
  refine ⟨_, asks_listed (List.forall_mem_cons.2 ⟨fits_bare known, fits'⟩) ?_ trimmed⟩
  have whole : ("$" ++ name ++ "(" ++ unit ++ "," ++ String.ofList (writtenItems first more) ++
      ")").toList = '$' :: (name.toList ++ '(' :: unit.toList) ++
        ',' :: (writtenItems first more ++ [')']) := by
    simp
  rw [Text.normalize, whole, same, source]
  simp [Form.written, Form.tail, Params.written, writtenItems, Item.written, Item.before, Item.core]

theorem Spelling.exists_asks {text : String} (spelled : Spelling name unit text)
    (segment : IsSegment name) (known : unit ∈ units) : ∃ params, Asks name unit text params := by
  obtain ⟨-, letters⟩ := units_plain unit known
  obtain ⟨alone, behind, around⟩ := trim_units unit known
  have plain : ∀ c ∈ unit.toList, ¬IsQuote c ∧ c ≠ '\\' :=
    fun c inside => ⟨(letters c inside).2.2.1, (letters c inside).2.2.2.2⟩
  cases spelled with
  | plain =>
    have same : "$" ++ name = source name .absent := by
      rw [← String.toList_inj, toList_source]
      simp [Params.written]
    refine ⟨.absent, by simp [Params.Fits], Text.stops_nil, ?_, fun options same => same⟩
    rw [same]
    exact normalize_source segment (List.forall_mem_nil _)
  | empty =>
    have same : "$" ++ name ++ "()" = source name (.empty [] []) := by
      rw [← String.toList_inj, toList_source]
      simp [Params.written]
    refine ⟨.empty [] [], ⟨List.forall_mem_nil _, List.forall_mem_nil _⟩,
      Text.stops_cons.2 (by decide), ?_, fun options same => same⟩
    rw [same]
    exact normalize_source segment (by simp [Params.written])
  | bare =>
    refine ⟨_, asks_item segment known (fits_bare known) ?_ [] [] ?_ (by decide) (by simp)⟩
    · simpa [Item.arg] using alone
    · simp [Item.written, Item.before, Item.core]
  | spaced =>
    have padded : String.ofList (unit.toList ++ [' ']) = unit ++ " " := by simp
    refine ⟨_, asks_item segment known (fits_spaced known) ?_ [' '] [' '] rfl (by decide) (by simp)⟩
    rw [Item.arg, padded, behind]
  | single =>
    refine ⟨_, asks_item segment known (fits_quoted (.inr rfl) plain) ?_ ['\''] ['\''] ?_ (by decide)
      (by simp)⟩
    · simpa [Item.arg, char_plainBody] using alone
    · simp [Item.written, Item.before, Item.core, written_plainBody]
  | double =>
    have padded : String.ofList (' ' :: (unit.toList ++ [' '])) = " " ++ unit ++ " " := by
      simp [← String.toList_inj]
    have plain' : ∀ c ∈ ' ' :: (unit.toList ++ [' ']), ¬IsQuote c ∧ c ≠ '\\' := by
      simp only [List.forall_mem_cons, List.forall_mem_append]
      exact ⟨by decide, plain, by decide, List.forall_mem_nil _⟩
    refine ⟨_, asks_item segment known (fits_quoted (.inl rfl) plain') ?_ ['"', ' '] [' ', '"'] ?_
      (by decide) (by simp)⟩
    · rw [Item.arg, char_plainBody, padded, around]
    · simp [Item.written, Item.before, Item.core, written_plainBody]
  | further fits => exact asks_further segment known fits alone

/-- A token that asks for the unit is replaced by the length in it. -/
theorem Asks.substitute_eq {text : String} {params : Params} (asks : Asks name unit text params)
    (segment : IsSegment name) (known : unit ∈ units) {options : Options}
    (default : options.defaultUnit = unit) {sizes : List (String × Float)} {pixels : Float}
    (sized : sizes.reverse.lookup name = some pixels) (below : List (Value σ)) (config : Config τ)
    (host : σ) (state : τ) :
    substitute (layer options sizes :: below) text config host state =
      (.ok ⟨lengthLayout.write (number options pixels unit) ++ unit, []⟩, host, state) := by
  have fits := fits_of_isSegment segment asks.fits asks.stops
  let token : Token := Form.token ⟨name.toList, params, none⟩ 0
  have path : token.path = [name] := by
    change (name.toList.splitOn '.').map String.ofList = [name]
    simp [splitOn_of_isSegment segment]
  have asked : unitOf options token.args = unit := asks.unit options default
  have rendered : (entry options name pixels : Value σ).render token.args host =
      (.ok (some (lengthLayout.write (number options pixels unit) ++ unit)), host) := by
    rw [entry, Value.render, asked, length_of_mem known]
    rfl
  have replaced : replacement (layer options sizes :: below) token host =
      (.ok (lengthLayout.write (number options pixels unit) ++ unit).toList, host) := by
    rw [replacement, path, lookup_layer sized below]
    dsimp only
    rw [rendered]
    exact congrArg (fun text => (Except.ok text, host)) (List.append_nil _)
  have done := substituteBy_form asks.normal fits replaced config state
  rwa [String.ofList_toList] at done

end

/-- A size is given in the unit that the first argument names, blanks around it apart, or in the default
one, and a unit that there is not is refused by name. No other argument counts. So the ways to write a
token that ask for the default unit are all replaced by one text. -/
theorem layer_converts {options : Options} {sizes : List (String × Float)} {name : String}
    {pixels : Float} (sized : sizes.reverse.lookup name = some pixels) :
    ∃ call : List String → σ → Except CallError (Value σ) × σ,
      lookup [layer options sizes] [name] = some (.function call) ∧
      number options pixels "rem" = number options pixels "em" ∧
      number options pixels "px" = pixels ∧
      (∀ args host, let unit := (args.head?.map Text.trim).getD options.defaultUnit
        (unit ∈ units → call args host =
          (.ok (.string (lengthLayout.write (number options pixels unit) ++ unit)), host)) ∧
        (unit ∉ units → call args host =
          (.error ⟨"spacing format not supported '" ++ name ++ "(" ++ unit ++ ")'", []⟩, host))) ∧
      (IsSegment name → options.defaultUnit ∈ units →
        ∀ text, Spelling name options.defaultUnit text →
        ∀ (below : List (Value σ)) (config : Config τ) (host : σ) (state : τ),
          substitute (layer options sizes :: below) text config host state =
            (.ok ⟨lengthLayout.write (number options pixels options.defaultUnit) ++
              options.defaultUnit, []⟩, host, state)) := by
  refine ⟨_, lookup_layer sized [], rfl, rfl, ?_, ?_⟩
  · intro args host unit
    have asked : unitOf options args = unit := by cases args <;> rfl
    rw [asked]
    constructor
    · intro known
      rw [length_of_mem known]
      rfl
    · intro unknown
      rw [length_of_not_mem unknown]
      rfl
  · intro segment known text spelled below config host state
    obtain ⟨params, asks⟩ := spelled.exists_asks segment known
    exact asks.substitute_eq segment known rfl sized below config host state

/-- Each way to ask for the default unit, and one in which the normal form has another argument. -/
theorem layer_converts_md :
    [("md", (24 : Float))].reverse.lookup "md" = some 24 ∧
    ∀ text ∈ ["$md", "$md()", "$md(px)", "$md( px )", "$md('px')", "$md(\" px \")",
        "$md(px, 'e\u0301,\\')', x y )"],
      substitute [layer ⟨16, "px"⟩ [("md", 24)]] text Config.standard () [] =
        (.ok ⟨lengthLayout.write 24 ++ "px", []⟩, (), []) := by
  have sized : [("md", (24 : Float))].reverse.lookup "md" = some 24 := rfl
  refine ⟨sized, ?_⟩
  obtain ⟨_, -, -, px, -, replaced⟩ :=
    @layer_converts Unit (List Event) ⟨16, "px"⟩ [("md", 24)] "md" 24 sized
  have segment : IsSegment "md" := by decide
  let first : Item :=
    .quoted [' '] '\'' [.plain 'e', .plain '\u0301', .plain ',', .escaped '\'', .plain ')'] []
  let second : Item := .bare [' '] "x y ".toList
  have blank : ∀ c ∈ [' '], Text.isBlank c := List.all_eq_true.1 (by decide)
  have fits : ∀ item ∈ [first, second], item.Fits := by
    simp only [List.forall_mem_cons]
    refine ⟨⟨blank, .inr rfl, by simp [Quoted.Piece.Fits], List.forall_mem_nil _⟩,
      ⟨blank, by decide, by simp [EndsItem], ?_⟩, List.forall_mem_nil _⟩
    rintro c ⟨⟩
    decide
  have spelled : ∀ text ∈ ["$md", "$md()", "$md(px)", "$md( px )", "$md('px')", "$md(\" px \")",
        "$md(px, 'e\u0301,\\')', x y )"], Spelling "md" "px" text := by
    simp only [List.forall_mem_cons]
    exact ⟨.plain, .empty, .bare, .spaced, .single, .double, .further fits, List.forall_mem_nil _⟩
  intro text inside
  have same := replaced segment (by decide) text (spelled text inside) [] Config.standard () []
  simpa only [px] using same

end Spacing
end StyleTokens

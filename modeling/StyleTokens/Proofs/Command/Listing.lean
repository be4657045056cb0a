import StyleTokens.Proofs.Command.Compile
import StyleTokens.Proofs.Substitution.Layering
import StyleTokens.Proofs.Text.Normal

/-! Which tokens a listing shows, and which ones a pass settles. A listing takes a source as it is
written. A pass brings it into normal form first, so the tokens that it settles are those that the
listing shows of the normal form, and these may have other places and other arguments. -/

set_option autoImplicit false

namespace StyleTokens

variable {σ τ : Type}

/-! ### Tokens of a pass -/

/-- The well-formed tokens of a text. -/
def wellFormed (text : String) : List Token := (scan text).filterMap Except.toOption

/-- The well-formed tokens among those on record, in the order in which they were settled. -/
def settledTokens (actions : List (Action σ)) : List Token :=
  (settlements actions).filterMap fun
    | (_, .error (.scan _)) => none
    | (token, _) => some token

theorem settledTokens_append (first second : List (Action σ)) :
    settledTokens (first ++ second) = settledTokens first ++ settledTokens second := by
  rw [settledTokens, settlements_append, List.filterMap_append]
  rfl

-- A value that is missing or cannot be rendered is a fault of the layers; only the scan finds a token
-- malformed.
theorem settledTokens_report {layers : List (Value σ)} {host host' : σ}
    {scanned : Except ScanFailure Token} {token : Token} {error : TokenError}
    (tried : attempt layers host scanned = (token, .error error, host')) :
    settledTokens (inquiries layers scanned ++ [.report ⟨token, error⟩]) =
      scanned.toOption.toList := by
  rw [settledTokens, settlements_append, settlements_inquiries, List.nil_append]
  cases scanned with
  | error failure =>
    cases tried
    rfl
  | ok scanned =>
    simp only [attempt, replacement] at tried
    split at tried
    · cases tried
      rfl
    · split at tried <;> cases tried
      rfl

theorem settledTokens_splice {layers : List (Value σ)} {host host' : σ}
    {scanned : Except ScanFailure Token} {token : Token} {text : List Char}
    (tried : attempt layers host scanned = (token, .ok text, host')) :
    settledTokens (inquiries layers scanned ++ [.splice token text]) = scanned.toOption.toList := by
  rw [settledTokens, settlements_append, settlements_inquiries, List.nil_append]
  cases scanned with
  | error failure => cases tried
  | ok scanned =>
    have same := attempt_token layers host (.ok scanned)
    rw [tried] at same
    cases same
    rfl

/-- A pass settles the well-formed tokens in the order in which they are pending: all of them if it
goes through, and those before its end if it does not. -/
theorem settledTokens_record (layers : List (Value σ)) (config : Config τ)
    (pending : List (Except ScanFailure Token)) (document : List Char) (host : σ) (state : τ) :
    let settled := settledTokens (record layers config pending host state)
    settled <+: pending.filterMap Except.toOption ∧
      ((∃ done, (settle layers config pending document host state).1 = .ok done) →
        settled = pending.filterMap Except.toOption) := by
  induction pending generalizing document host state with
  | nil => exact ⟨List.prefix_rfl, fun _ => rfl⟩
  | cons scanned pending ih =>
    have whole : (scanned :: pending).filterMap Except.toOption =
        scanned.toOption.toList ++ pending.filterMap Except.toOption := by
      cases scanned <;> rfl
    rw [whole]
    rcases tried : attempt layers host scanned with ⟨token, error | text, host'⟩
    · by_cases ends : config.Ends ⟨token, error⟩ state
      · rw [settle_of_ends tried ends, record_of_ends tried ends, settledTokens_report tried]
        refine ⟨List.prefix_append .., ?_⟩
        rintro ⟨done, ⟨⟩⟩
      · rw [settle_of_not_ends tried ends, record_of_not_ends tried ends, settledTokens_append,
          settledTokens_report tried]
        obtain ⟨begins, all⟩ := ih document host' (config.tell state ⟨token, error⟩)
        refine ⟨(List.prefix_append_right_inj _).2 begins, ?_⟩
        rintro ⟨done, went⟩
        rw [all]
        cases later : (settle layers config pending document host'
            (config.tell state ⟨token, error⟩)).1 with
        | ok done' => exact ⟨done', rfl⟩
        | error failure =>
          rw [leaving, later] at went
          cases went
    · rw [settle_of_ok tried, record_of_ok tried, settledTokens_append, settledTokens_splice tried]
      obtain ⟨begins, all⟩ := ih (splice document token text) host' state
      exact ⟨(List.prefix_append_right_inj _).2 begins, fun went => by rw [all went]⟩

/-! ### Tokens of a listing -/

namespace Command

/-- A listing prints the well-formed tokens of the source as it is written. A pass over the source,
such as the one of a compilation, settles from the last one on the well-formed tokens of its normal
form: all of them if it goes through, and else those before its end. So a listing shows what a pass
settles if the source has no character from U+0300 on, or is replaced by its normal form. -/
theorem session_listTokens (reader : MapReader Unit) (source : String) :
    (∀ (place here : Place) (input : Except Fault String) (args : List String)
        (directory path : Option String) (format : ListFormat),
      read args = .ok ⟨directory, .listTokens format path⟩ →
      directory.elim (.ok place) place.enter = .ok here →
      readSource here.files input path = .ok source →
      (sessionBy reader place input args).1.output = format.write (wellFormed source)) ∧
    (∀ (files : Files) (input : Except Fault String) (options : CompileOptions)
        (loaded : List (String × Value Unit)),
      files.Loads reader options.maps loaded → readSource files input options.input = .ok source →
      compile reader files input options =
        let (result, _, log) := substitute (loaded.map Prod.snd) source options.config () []
        (result.mapError .token >>= fun done => .ok (Text.trim done.text ++ "\n"), log)) ∧
    (∀ (σ τ : Type) (layers : List (Value σ)) (config : Config τ) (host : σ) (state : τ),
      let outcome := substitute layers source config host state
      let actions := recordBy Text.normalize layers source config host state
      Accounts config actions (Text.normalize source).toList host state outcome ∧
        settledTokens actions <+: (wellFormed (Text.normalize source)).reverse ∧
        ((∃ done, outcome.1 = .ok done) →
          settledTokens actions = (wellFormed (Text.normalize source)).reverse)) ∧
    ((∀ c ∈ source.toList, c.toNat < 0x300) →
      wellFormed (Text.normalize source) = wellFormed source) := by
  refine ⟨?_, ?_, ?_, ?_⟩
  · intro place here input args directory path format parsed entered found
    rw [sessionBy_of_read parsed entered, Job.run, found]
    rfl
  · exact fun files input options loaded loads found => compile_of_loads loads found
  · intro σ τ layers config host state outcome actions
    have settled := settledTokens_record layers config (scan (Text.normalize source)).reverse
      (Text.normalize source).toList host state
    rw [List.filterMap_reverse] at settled
    exact ⟨settle_accounts .., settled⟩
  · exact fun latin => by rw [Text.normalize_of_latin latin]

/-- An accent that is written as a character of its own stands before the token in the source, and is
part of the letter before it in the normal form. -/
theorem listTokens_accented :
    let source := "cafe\u0301 $a"
    let config : Config Unit := ⟨false, "example", fun _ _ => (.proceed, ())⟩
    let layers : List (Value Unit) := [.object [("a", .string "x")]]
    wellFormed source = [⟨6, 8, "$a", none, ["a"], []⟩] ∧
      settledTokens (recordBy Text.normalize layers source config () ()) =
        [⟨5, 7, "$a", none, ["a"], []⟩] := by
  decide +kernel

end Command
end StyleTokens

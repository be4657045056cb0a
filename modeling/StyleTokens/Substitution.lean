import StyleTokens.Event
import StyleTokens.Lookup
import StyleTokens.Text.Inspect
import StyleTokens.Text.Normal
import StyleTokens.Token.Scan
import StyleTokens.Value.Render

/-! Substitution replaces the tokens of a text by the values they stand for.

The text is brought into normal form and scanned first. Then the tokens are settled from the last
to the first, so that a replacement never moves a token that is still to come. A token that cannot
be replaced is reported to a handler; the pass ends there if it is strict or the handler says so,
and otherwise leaves the token as it stands. -/

set_option autoImplicit false

namespace StyleTokens

inductive TokenError where
  | scan (error : ScanError)
  | missing (path : String)
  | render (error : RenderError)
  deriving DecidableEq, Repr

def TokenError.message : TokenError → String
  | .scan error => error.message
  | .missing path => "missing or invalid token: " ++ path
  | .render error => error.message

def TokenError.chain : TokenError → List String
  | .render error => error.chain
  | error => [error.message]

structure TokenFailure where
  token : Token
  error : TokenError
  deriving DecidableEq, Repr

def TokenFailure.message (failure : TokenFailure) : String :=
  "token `" ++ Text.trimEnd failure.token.raw ++ "` at " ++ toString failure.token.start ++
    " not replaced"

def TokenFailure.chain (failure : TokenFailure) : List String :=
  failure.message :: failure.error.chain

inductive Flow where
  | proceed
  | stop
  deriving DecidableEq, Repr

structure Report where
  failure : TokenFailure
  reference : String
  deriving DecidableEq, Repr

abbrev Handler (τ : Type) := Report → τ → Flow × τ

def Report.event (report : Report) : Event :=
  .notReplaced report.failure.error.message (Text.trimEnd report.failure.token.raw) report.reference

def logFailure : Handler (List Event) := fun report log => (.proceed, log ++ [report.event])

/-- Options of a pass. A strict pass ends at its first failure. -/
structure Config (τ : Type) where
  strict : Bool
  reference : String
  onFailure : Handler τ

def Config.standard : Config (List Event) := ⟨true, "<input>", logFailure⟩

def Config.inspect {τ : Type} (config : Config τ) : String :=
  "Config \x7b throw_if_missing: " ++ (if config.strict then "true" else "false") ++
    ", reference: " ++ Text.inspect config.reference ++ ", .. \x7d"

/-- A pass that went through: the new text, and the tokens left in place in the order in which they
were settled, the last one of the text first. -/
structure Substitution where
  text : String
  failures : List TokenFailure
  deriving DecidableEq, Repr

variable {σ τ : Type}

/-- What takes the place of a token: the text of its value and its own suffix, or nothing at all if
the value is null. -/
def replacement (layers : List (Value σ)) (token : Token) (host : σ) :
    Except TokenError (List Char) × σ :=
  match lookup layers token.path with
  | none => (.error (.missing token.dotted), host)
  | some value =>
    match value.render token.args host with
    | (.error error, host) => (.error (.render error), host)
    | (.ok none, host) => (.ok [], host)
    | (.ok (some text), host) => (.ok (text.toList ++ token.suffix.toList), host)

def splice (document : List Char) (token : Token) (text : List Char) : List Char :=
  document.take token.start ++ text ++ document.drop token.stop

def attempt (layers : List (Value σ)) (host : σ) :
    Except ScanFailure Token → Token × Except TokenError (List Char) × σ
  | .ok token => (token, replacement layers token host)
  | .error failure => (failure.token, .error (.scan failure.error), host)

/-- Settles tokens in the given order, each one before all that were settled already, in a monad in
which the document is changed. -/
def settleM {m : Type → Type} [Monad m] (splice : List Char → Token → List Char → m (List Char))
    (layers : List (Value σ)) (config : Config τ) :
    List (Except ScanFailure Token) → List Char → σ → τ →
      m (Except TokenFailure Substitution × σ × τ)
  | [], document, host, state => return (.ok ⟨String.ofList document, []⟩, host, state)
  | scanned :: pending, document, host, state =>
    match attempt layers host scanned with
    | (token, .ok text, host) => do
      settleM splice layers config pending (← splice document token text) host state
    | (token, .error error, host) =>
      let failure : TokenFailure := ⟨token, error⟩
      match config.onFailure ⟨failure, config.reference⟩ state with
      | (flow, state) =>
        if config.strict ∨ flow = .stop then return (.error failure, host, state)
        else do
          match ← settleM splice layers config pending document host state with
          | (.error failure, host, state) => return (.error failure, host, state)
          | (.ok done, host, state) =>
            return (.ok { done with failures := failure :: done.failures }, host, state)

def settle (layers : List (Value σ)) (config : Config τ)
    (pending : List (Except ScanFailure Token)) (document : List Char) (host : σ) (state : τ) :
    Except TokenFailure Substitution × σ × τ :=
  Id.run (settleM (fun document token text => pure (splice document token text)) layers config pending
    document host state)

/-- The pass over a text, given the function that brings it into normal form. -/
def substituteBy (normalize : String → String) (layers : List (Value σ)) (text : String)
    (config : Config τ) (host : σ) (state : τ) : Except TokenFailure Substitution × σ × τ :=
  let document := normalize text
  settle layers config (scan document).reverse document.toList host state

/-- Replaces the tokens of a text; gives the first failure instead if the pass ended early. -/
def substitute (layers : List (Value σ)) (text : String) (config : Config τ) (host : σ)
    (state : τ) : Except TokenFailure Substitution × σ × τ :=
  substituteBy Text.normalize layers text config host state

end StyleTokens

import StyleTokens.Decimal.Layout
import StyleTokens.Text.Blank
import StyleTokens.Value

/-! Spacings: named sizes in pixels, offered as callables that convert a size into another unit of
length. An inch has 96 pixels. -/

set_option autoImplicit false

namespace StyleTokens.Spacing

inductive LengthUnit where
  | rem
  | em
  | px
  | pt
  | pc
  | inch
  | cm
  | mm
  deriving DecidableEq, Repr

def LengthUnit.ofName? : String → Option LengthUnit
  | "rem" => some .rem
  | "em" => some .em
  | "px" => some .px
  | "pt" => some .pt
  | "pc" => some .pc
  | "in" => some .inch
  | "cm" => some .cm
  | "mm" => some .mm
  | _ => none

structure Options where
  /-- The size of the root font in pixels. -/
  base : Float
  defaultUnit : String

def Options.standard : Options := ⟨16, "rem"⟩

def pixelsPerInch : Float := 96
def pixelsPerMillimetre : Float := pixelsPerInch * 0.03937
def pixelsPerCentimetre : Float := pixelsPerMillimetre * 10
def pointsPerInch : Float := 72
def pixelsPerPica : Float := 16

/-- Rounds to the given places after the point, halves away from zero. -/
def roundTo (scale : Float) (value : Float) : Float := (value * scale).round / scale

/-- Two decimal places, and one for the small unit. -/
def convert (base pixels : Float) : LengthUnit → Float
  | .rem | .em => roundTo 100 (pixels / base)
  | .px => pixels
  | .pt => roundTo 100 (pixels * pointsPerInch / pixelsPerInch)
  | .pc => roundTo 100 (pixels / pixelsPerPica)
  | .inch => roundTo 100 (pixels / pixelsPerInch)
  | .cm => roundTo 100 (pixels / pixelsPerCentimetre)
  | .mm => roundTo 10 (pixels / pixelsPerMillimetre)

/-- Lengths are written without exponent, and whole ones without a point. A length between two
equally near ones is the greater. -/
def lengthLayout : Decimal.Layout := ⟨fun _ => true, "", "", "inf", "NaN", .upward⟩

def length (name : String) (base pixels : Float) (unit : String) : Except CallError String :=
  match LengthUnit.ofName? unit with
  | some known => .ok (lengthLayout.write (convert base pixels known) ++ unit)
  | none => .error ⟨"spacing format not supported '" ++ name ++ "(" ++ unit ++ ")'", []⟩

/-- The unit that arguments ask for: the first one, blanks around it apart. -/
def unitOf (options : Options) (args : List String) : String :=
  match args with
  | [] => options.defaultUnit
  | unit :: _ => Text.trim unit

variable {σ : Type}

def entry (options : Options) (name : String) (pixels : Float) : Value σ :=
  .function fun args host =>
    ((length name options.base pixels (unitOf options args)).map Value.string, host)

def layer (options : Options) (sizes : List (String × Float)) : Value σ :=
  .ofEntries (sizes.map fun (name, pixels) => (name, entry options name pixels))

end StyleTokens.Spacing

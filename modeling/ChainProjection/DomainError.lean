import ChainProjection.Protobuf.Wire
import ChainProjection.Hex

/-!
# Errors of the domain

What can be wrong with a value on its own, without a look at the store: a code that does not exist,
a stored variant that cannot be rebuilt, a change of status that is not allowed, bytes that do not
read.  Each cause is one constructor; the wording is in `message` alone.
-/

namespace ChainProjection

/-- The values that are stored as the name of a variant beside its data. -/
inductive VariantField where
  | categoryStatus
  | threadStatus
  | postStatus
  | postOrigin
  | liaisonJudgement
  | assetAvailability
  | dataObjectOwner
  deriving DecidableEq, Repr

/-- What a field is called in messages. -/
def VariantField.label : VariantField → String
  | .categoryStatus => "category status"
  | .threadStatus => "thread status"
  | .postStatus => "post status"
  | .postOrigin => "post origin"
  | .liaisonJudgement => "liaison judgement"
  | .assetAvailability => "asset availability"
  | .dataObjectOwner => "data object owner"

/-- What can be wrong with a value on its own. -/
inductive DomainError where
  | invalidLanguage (code : String)
  | unknownVariant (field : VariantField) (name : String)
  | missingCause (field : VariantField) (variant : String)
  | illegalTransition (field : VariantField) (source target : String)
  | invalidHex (cause : Hex.Error)
  | undecodableMetadata (failure : Protobuf.Failure)
  deriving DecidableEq, Repr

/-- The words of an error. -/
def DomainError.message : DomainError → String
  | .invalidLanguage code => "Invalid ISO-639-1 language code: " ++ Text.quoted code
  | .unknownVariant field name =>
    "Unknown " ++ field.label ++ " variant: " ++ Text.quoted name
  | .missingCause field variant =>
    field.label ++ " variant " ++ variant ++ " is missing its event back-reference"
  | .illegalTransition field source target =>
    "Illegal " ++ field.label ++ " transition from " ++ source ++ " to " ++ target
  | .invalidHex cause => cause.report
  | .undecodableMetadata failure => "Metadata decode failed: " ++ failure.message

/-! ### Language codes -/

namespace Language

/-- Every code, in ascending order and without repetition. -/
def codes : List String := [
  "aa", "ab", "ae", "af", "ak", "am", "an", "ar", "as", "av", "ay", "az", "ba", "be", "bg", "bh",
  "bi", "bm", "bn", "bo", "br", "bs", "ca", "ce", "ch", "co", "cr", "cs", "cu", "cv", "cy", "da",
  "de", "dv", "dz", "ee", "el", "en", "eo", "es", "et", "eu", "fa", "ff", "fi", "fj", "fo", "fr",
  "fy", "ga", "gd", "gl", "gn", "gu", "gv", "ha", "he", "hi", "ho", "hr", "ht", "hu", "hy", "hz",
  "ia", "id", "ie", "ig", "ii", "ik", "io", "is", "it", "iu", "ja", "jv", "ka", "kg", "ki", "kj",
  "kk", "kl", "km", "kn", "ko", "kr", "ks", "ku", "kv", "kw", "ky", "la", "lb", "lg", "li", "ln",
  "lo", "lt", "lu", "lv", "mg", "mh", "mi", "mk", "ml", "mn", "mr", "ms", "mt", "my", "na", "nb",
  "nd", "ne", "ng", "nl", "nn", "no", "nr", "nv", "ny", "oc", "oj", "om", "or", "os", "pa", "pi",
  "pl", "ps", "pt", "qu", "rm", "rn", "ro", "ru", "rw", "sa", "sc", "sd", "se", "sg", "si", "sk",
  "sl", "sm", "sn", "so", "sq", "sr", "ss", "st", "su", "sv", "sw", "ta", "te", "tg", "th", "ti",
  "tk", "tl", "tn", "to", "tr", "ts", "tt", "tw", "ty", "ug", "uk", "ur", "uz", "ve", "vi", "vo",
  "wa", "wo", "xh", "yi", "yo", "za", "zh", "zu"
]

/-- Whether a text is one of the codes. -/
def isCode (text : String) : Bool := codes.contains text

/-- A code, if it is one. -/
def validate (text : String) : Except DomainError String :=
  if isCode text then .ok text else .error (.invalidLanguage text)

/-- A text passes unchanged, and exactly if it is a code. -/
theorem validate_eq_ok {text code : String} :
    validate text = .ok code ↔ isCode text = true ∧ code = text := by
  rcases h : isCode text with _ | _ <;> simp [validate, h, eq_comm]

end Language

end ChainProjection

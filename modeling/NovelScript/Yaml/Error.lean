import NovelScript.Text.Quoted

/-!
# Errors of a YAML document

Why a document cannot be read: its bytes are no text, its characters form no tokens, its tokens form
no document, or its values are not the ones that were asked for. A `Fault` is the cause, an `Error`
adds where it was met.
-/

namespace NovelScript.Yaml

/-- Why a text is not a document. -/
inductive Fault where
  /-- A byte that starts no character. -/
  | lead
  /-- The text ends inside a character. -/
  | incomplete
  /-- A byte that continues no character. -/
  | trail
  /-- A character written with too many bytes. -/
  | overlong
  /-- A number that is no character. -/
  | noCharacter
  /-- Half a 16-bit unit at the end. -/
  | halfUnit
  /-- A pair of units without its second half at the end. -/
  | halfPair
  /-- The second half of a pair without a first. -/
  | loneLow
  /-- The first half of a pair without a second. -/
  | loneHigh
  /-- A control character. -/
  | control
  /-- No token starts so. -/
  | noToken
  /-- A value where none can stand. -/
  | valuePlace
  /-- A sequence entry where none can stand. -/
  | entryPlace
  /-- A key where none can stand. -/
  | keyPlace
  /-- A key without its colon. -/
  | noColon
  /-- Too many levels of nesting. -/
  | depth
  /-- A directive without a name. -/
  | noDirectiveName
  /-- A directive name that runs into something else. -/
  | directiveNameEnd
  /-- A directive nobody knows. -/
  | unknownDirective
  /-- Something else behind a directive or a block scalar header. -/
  | noLineEnd
  /-- A version without a point. -/
  | versionPoint
  /-- A version number that is too long. -/
  | versionLength
  /-- A version without a number. -/
  | noVersion
  /-- No blank where one must stand. -/
  | noBlank
  /-- No blank or line break where one must stand. -/
  | noBlankOrBreak
  /-- An anchor or alias without a name. -/
  | noName
  /-- A tag without its exclamation mark. -/
  | noBang
  /-- A verbatim tag without its end. -/
  | noTagEnd
  /-- A tag without a name. -/
  | noTag
  /-- An escaped byte of a tag that is malformed. -/
  | tagEscape
  /-- An escaped byte of a tag that starts no character. -/
  | tagLead
  /-- An escaped byte of a tag that continues no character. -/
  | tagTrail
  /-- An indentation of zero is asked for. -/
  | zeroIndent
  /-- A tabulator in the indentation of a block scalar. -/
  | tabIndent
  /-- A document mark inside quotes. -/
  | documentMark
  /-- The text ends inside quotes. -/
  | unclosed
  /-- An escape nobody knows. -/
  | unknownEscape
  /-- A numeric escape with too few digits. -/
  | escapeDigits
  /-- A numeric escape of no character. -/
  | escapeCharacter
  /-- A tabulator in the indentation of a plain scalar. -/
  | tabPlain
  /-- Something else where a document must start. -/
  | noDocumentStart
  /-- Something else where a value must stand. -/
  | noContent
  /-- A tag with an unknown handle. -/
  | unknownHandle
  /-- Something else where a sequence entry must stand. -/
  | noEntry
  /-- Something else where a key must stand. -/
  | noKey
  /-- A flow sequence that does not go on. -/
  | flowSequence
  /-- A flow mapping that does not go on. -/
  | flowMapping
  /-- Two version directives. -/
  | twoVersions
  /-- Two directives for one tag handle. -/
  | twoHandles
  /-- A version other than 1.1. -/
  | version
deriving DecidableEq, Repr

/-- What is said about a fault. -/
def Fault.message : Fault → String
  | .lead => "invalid leading UTF-8 octet"
  | .incomplete => "incomplete UTF-8 octet sequence"
  | .trail => "invalid trailing UTF-8 octet"
  | .overlong => "invalid length of a UTF-8 sequence"
  | .noCharacter => "invalid Unicode character"
  | .halfUnit => "incomplete UTF-16 character"
  | .halfPair => "incomplete UTF-16 surrogate pair"
  | .loneLow => "unexpected low surrogate area"
  | .loneHigh => "expected low surrogate area"
  | .control => "control characters are not allowed"
  | .noToken => "found character that cannot start any token"
  | .valuePlace => "mapping values are not allowed in this context"
  | .entryPlace => "block sequence entries are not allowed in this context"
  | .keyPlace => "mapping keys are not allowed in this context"
  | .noColon => "could not find expected ':'"
  | .depth => "exceeded max depth of 10000"
  | .noDirectiveName => "could not find expected directive name"
  | .directiveNameEnd => "found unexpected non-alphabetical character"
  | .unknownDirective => "found unknown directive name"
  | .noLineEnd => "did not find expected comment or line break"
  | .versionPoint => "did not find expected digit or '.' character"
  | .versionLength => "found extremely long version number"
  | .noVersion => "did not find expected version number"
  | .noBlank => "did not find expected whitespace"
  | .noBlankOrBreak => "did not find expected whitespace or line break"
  | .noName => "did not find expected alphabetic or numeric character"
  | .noBang => "did not find expected '!'"
  | .noTagEnd => "did not find the expected '>'"
  | .noTag => "did not find expected tag URI"
  | .tagEscape => "did not find URI escaped octet"
  | .tagLead => "found an incorrect leading UTF-8 octet"
  | .tagTrail => "found an incorrect trailing UTF-8 octet"
  | .zeroIndent => "found an indentation indicator equal to 0"
  | .tabIndent => "found a tab character where an indentation space is expected"
  | .documentMark => "found unexpected document indicator"
  | .unclosed => "found unexpected end of stream"
  | .unknownEscape => "found unknown escape character"
  | .escapeDigits => "did not find expected hexdecimal number"
  | .escapeCharacter => "found invalid Unicode character escape code"
  | .tabPlain => "found a tab character that violates indentation"
  | .noDocumentStart => "did not find expected <document start>"
  | .noContent => "did not find expected node content"
  | .unknownHandle => "found undefined tag handle"
  | .noEntry => "did not find expected '-' indicator"
  | .noKey => "did not find expected key"
  | .flowSequence => "did not find expected ',' or ']'"
  | .flowMapping => "did not find expected ',' or '\x7d'"
  | .twoVersions => "found duplicate %YAML directive"
  | .twoHandles => "found duplicate %TAG directive"
  | .version => "found incompatible YAML document"

/-- Why one value of a document is refused. -/
inductive Mismatch where
  /-- A value that does not fit what is wanted; a scalar is shown. -/
  | type (tag : Text) (shown : Option Text) (wanted : String)
  /-- A key that was there before. -/
  | key (name : Text) (line : Nat)
  /-- A field that was set before under another spelling. -/
  | field (name : Text) (wanted : String)
deriving DecidableEq

/-- A scalar as it is shown in a message: the start of it when it is long. -/
def shorten (value : Text) : Text :=
  if 10 < value.length then value.take 7 ++ Text.lit "..." else value

/-- What is said about a refused value. -/
def Mismatch.message : Mismatch → Text
  | .type tag shown wanted =>
    Text.lit "cannot unmarshal " ++ tag ++
      (match shown with
        | some v => Text.lit " `" ++ shorten v ++ Text.lit "`"
        | none => []) ++
      Text.lit " into " ++ Text.lit wanted
  | .key name line =>
    Text.lit "mapping key " ++ Text.quoted name ++ Text.lit " already defined at line " ++
      Text.lit (toString line)
  | .field name wanted =>
    Text.lit "field " ++ name ++ Text.lit " already set in type " ++ Text.lit wanted

/-- Why a document is refused. -/
inductive Error where
  /-- It is no document; lines count from one, and zero means that no line is named. -/
  | fault (line : Nat) (cause : Fault)
  /-- An alias for an anchor that is not there. -/
  | unknownAnchor (name : Text)
  /-- A value that contains itself. -/
  | selfReference (name : Text)
  /-- Something other than mappings is merged. -/
  | mergeValue
  /-- Binary data that is not in base 64. -/
  | badBinary
  /-- A scalar that is not what its tag says. -/
  | tagged (found value tag : Text)
  /-- Values of the wrong type, with their lines. -/
  | mismatches (list : List (Nat × Mismatch))
deriving DecidableEq

/-- What is said about a refused document. -/
def Error.message : Error → Text
  | .fault line cause =>
    Text.lit "yaml: " ++
      (if line = 0 then [] else Text.lit "line " ++ Text.lit (toString line) ++ Text.lit ": ") ++
      Text.lit cause.message
  | .unknownAnchor name => Text.lit "yaml: unknown anchor '" ++ name ++ Text.lit "' referenced"
  | .selfReference name => Text.lit "yaml: anchor '" ++ name ++ Text.lit "' value contains itself"
  | .mergeValue => Text.lit "yaml: map merge requires map or sequence of maps as the value"
  | .badBinary => Text.lit "yaml: !!binary value contains invalid base64 data"
  | .tagged found value tag =>
    Text.lit "yaml: cannot decode " ++ found ++ Text.lit " `" ++ value ++ Text.lit "` as a " ++ tag
  | .mismatches list =>
    Text.lit "yaml: unmarshal errors:" ++ list.flatMap fun (line, m) =>
      Text.lit "\n  line " ++ Text.lit (toString line) ++ Text.lit ": " ++ m.message

end NovelScript.Yaml

/-!
# Log lines and faults

A `Fault` is a reason for which an operation gives no answer. Findings about a
source file are never faults; they are violations. `Fault.message` holds the
wording of every fault.
-/
namespace DocLint

inductive LogLevel
  | debug
  | warning
  deriving DecidableEq, Repr

structure LogLine where
  level : LogLevel
  text : String
  deriving DecidableEq, Repr

inductive Unreadable
  /-- The token is no literal, for a reason that its reader words. -/
  | badLiteral (details : String)
  /-- The token is a literal of another type. -/
  | notText (typeName : String)
  /-- The reader in use gives a reason of its own. -/
  | other (reason : String)
  deriving DecidableEq, Repr

def Unreadable.message : Unreadable → String
  | .badLiteral details => s!"invalid string literal ({details})"
  | .notText typeName => s!"expected text, got {typeName}"
  | .other reason => reason

inductive ParserUnavailable
  /-- The path is not of the form `module:attribute`. -/
  | badPath (path : String)
  /-- The module cannot be imported. -/
  | noModule (moduleName reason : String)
  /-- The module has no such parser. -/
  | noMember (moduleName member : String)
  deriving DecidableEq, Repr

def ParserUnavailable.message : ParserUnavailable → String
  | .badPath path => s!"Comment parser '{path}' must be given as 'module:attribute'."
  | .noModule moduleName reason =>
    s!"Comment parser module '{moduleName}' could not be imported: {reason}"
  | .noMember moduleName member =>
    s!"Comment parser '{member}' not found in module '{moduleName}'."

inductive TemplateFault
  /-- There are more slots than arguments. -/
  | missingArgument
  /-- There are fewer slots than arguments. -/
  | unusedArgument
  /-- The template ends in the middle of a slot. -/
  | incomplete
  /-- A slot has an unknown form. -/
  | unknownForm (form : Char) (position : Nat)
  /-- A slot asks for an argument by name. -/
  | named
  /-- A slot takes its width or its precision from an argument, which is a text. -/
  | countFromText
  | widthTooBig
  | precisionTooBig
  /-- A slot for one character gets another number of them. -/
  | notOneCharacter
  /-- A slot for a number that is written in base ten gets a text. -/
  | notNumber (form : Char)
  /-- A slot for a number that is written in another base gets a text. -/
  | notWhole (form : Char)
  /-- A slot for a fractional number gets a text. -/
  | notFractional
  /-- A slot is wider than any text can be. -/
  | outOfMemory
  deriving DecidableEq, Repr

/-- The reason in words. The form of an unknown slot is shown if it is printable ASCII. -/
def TemplateFault.message : TemplateFault → String
  | .missingArgument => "not enough arguments for format string"
  | .unusedArgument => "not all arguments converted during string formatting"
  | .incomplete => "incomplete format"
  | .unknownForm form position =>
    let shown := if 31 ≤ form.toNat && form.toNat < 126 then form else '?'
    let code := String.ofList (Nat.toDigits 16 form.toNat)
    s!"unsupported format character '{shown}' (0x{code}) at index {position}"
  | .named => "format requires a mapping"
  | .countFromText => "* wants int"
  | .widthTooBig => "width too big"
  | .precisionTooBig => "precision too big"
  | .notOneCharacter => "%c requires int or char"
  | .notNumber form => s!"%{form} format: a real number is required, not str"
  | .notWhole form => s!"%{form} format: an integer is required, not str"
  | .notFractional => "must be real number, not str"
  | .outOfMemory => ""

/-- A reason for which an operation gives no answer. -/
inductive Fault
  /-- A token was asked for by an index outside a sequence of `count` tokens. -/
  | tokenOutOfRange (index : Int) (count : Nat)
  /-- A span of tokens leaves the sequence. -/
  | spanOutOfRange
  /-- A message template cannot be filled. -/
  | template (reason : TemplateFault)
  /-- A doc comment cannot be read. -/
  | unreadable (reason : Unreadable)
  /-- A literal puts a value where only an immutable one can stand. -/
  | unhashable (typeName : String)
  /-- A literal adds an imaginary number to a whole number that is too large. -/
  | wholeTooLarge
  /-- A configuration file is not well formed, with the reason of its reader. -/
  | malformedFile (reason : String)
  /-- A configuration file is not encoded as it has to be. -/
  | undecodableFile (reason : String)
  /-- A value that is no table is used as one, or as another collaborator. -/
  | lacksMember (typeName member : String)
  /-- A value that is no comment parser is used as one. -/
  | notCallable (typeName : String)
  /-- A callable that is no comment parser is used as one. -/
  | wrongArguments (name missing : String)
  /-- No comment parser is found at the configured path. -/
  | parserUnavailable (reason : ParserUnavailable)
  /-- Importing the module of the configured path fails, though it may be there. -/
  | importFailed (reason : String)
  /-- Nothing is registered under a key. -/
  | unregistered (key : String)
  /-- A whole number has more digits than are written. -/
  | tooManyDigits (limit : Nat)
  /-- A value of another program has no text. -/
  | noText (typeName : String)
  /-- The host does not take a checker. -/
  | refusedByHost (reason : String)
  deriving DecidableEq, Repr

def Fault.message : Fault → String
  | .tokenOutOfRange index count => s!"Token index {index} out of range (0..{(count : Int) - 1})"
  | .spanOutOfRange => "tuple index out of range"
  | .template reason => reason.message
  | .unreadable reason => reason.message
  | .unhashable typeName => s!"unhashable type: '{typeName}'"
  | .wholeTooLarge => "int too large to convert to float"
  | .malformedFile reason => reason
  | .undecodableFile reason => reason
  | .lacksMember typeName member => s!"'{typeName}' object has no attribute '{member}'"
  | .notCallable typeName => s!"'{typeName}' object is not callable"
  | .wrongArguments name missing => s!"{name}.__init__() missing {missing}"
  | .parserUnavailable reason => reason.message
  | .importFailed reason => reason
  | .unregistered key => s!"Dependency '{key}' not registered."
  | .tooManyDigits limit =>
    s!"Exceeds the limit ({limit} digits) for integer string conversion"
  | .noText typeName => s!"'{typeName}' object has no text"
  | .refusedByHost reason => reason

end DocLint

/-
  Error.lean --- errors with context and causes, and the three ways to show one.

  An error has a message, context entries in the order they were added, and
  causes in the order they were added.  `display` is the one-line text of
  messages to a reader; `debug` is the text over several lines; `outline`
  shows the error as a nested structure.
-/
import LogLine.Text.Quoted

set_option autoImplicit false

namespace LogLine

mutual

/-- A failure of this library. -/
inductive Error where
  /-- The message, the context entries and the causes. -/
  | mk (message : String) (context : List (String × String)) (causes : List Cause)

/-- What made an error arise. -/
inductive Cause where
  /-- Another error of this library. -/
  | error (error : Error)
  /-- An input or output operation that failed with this text. -/
  | io (text : String)
  /-- A formatting operation that failed. -/
  | formatting
  /-- A failure known by its text alone. -/
  | foreign (text : String)

end

deriving instance Repr for Error, Cause

namespace Error

/-- An error with a message alone. -/
def new (message : String) : Error := .mk message [] []

instance : Inhabited Error := ⟨new ""⟩

/-- The message. -/
def message : Error → String
  | .mk message _ _ => message

/-- The context entries, in the order they were added. -/
def context : Error → List (String × String)
  | .mk _ context _ => context

/-- The causes, in the order they were added. -/
def causes : Error → List Cause
  | .mk _ _ causes => causes

/-- Adds a context entry after the others. -/
def withContext (error : Error) (key value : String) : Error :=
  .mk error.message (error.context ++ [(key, value)]) error.causes

/-- Adds a context entry whose value is a text. -/
def withText (error : Error) (key : String) (value : Text) : Error :=
  error.withContext key (String.ofList value)

/-- Adds a context entry whose value is a number. -/
def withNumber (error : Error) (key : String) (value : Nat) : Error :=
  error.withContext key (toString value)

/-- Adds a cause after the others. -/
def withCause (error : Error) (cause : Cause) : Error :=
  .mk error.message error.context (error.causes ++ [cause])

/-- The value of the first context entry with the key. -/
def find? (error : Error) (key : String) : Option String :=
  (error.context.find? (·.1 == key)).map (·.2)

/-- A failed input or output operation. -/
def ofIo (text : String) : Error := (new "failed to perform io").withCause (.io text)

/-- A failed formatting operation. -/
def ofFormatting : Error := (new "failed to perform format").withCause .formatting

/-! ## One line -/

/-- The context part of the one-line text. -/
def contextText (context : List (String × String)) : String :=
  if context.isEmpty then ""
  else ", context: \x7b " ++ ", ".intercalate (context.map fun entry => entry.1 ++ ": " ++ entry.2)
    ++ " \x7d"

/-- The causes part of the one-line text. -/
def causesText (causes : List String) : String :=
  if causes.isEmpty then "" else ", sources: [" ++ ", ".intercalate causes ++ "]"

end Error

mutual

/-- The one-line text of an error: message, context, causes. -/
def Error.display : Error → String
  | .mk message context causes =>
    message ++ Error.contextText context ++ Error.causesText (Cause.displays causes)

/-- The one-line text of a cause. -/
def Cause.display : Cause → String
  | .error error => error.display
  | .io text => text
  | .formatting => "an error occurred when formatting an argument"
  | .foreign text => text

/-- The one-line texts of causes. -/
def Cause.displays : List Cause → List String
  | [] => []
  | cause :: rest => cause.display :: Cause.displays rest

end

/-! ## Several lines -/

mutual

/-- The texts of a cause and of the causes behind it, the first of each. -/
def Cause.chain : Cause → List String
  | .error error => error.display :: error.firstChain
  | cause => [cause.display]

/-- The chain behind the first cause of an error. -/
def Error.firstChain : Error → List String
  | .mk _ _ causes => Cause.headChain causes

/-- The chain of the first of several causes. -/
def Cause.headChain : List Cause → List String
  | [] => []
  | cause :: _ => cause.chain

end

/-- The text over several lines: message, context and causes in paragraphs. -/
def Error.debug (error : Error) : String :=
  let context := error.context.map fun entry => "   " ++ entry.1 ++ ": " ++ entry.2 ++ "\n"
  let causes := error.causes.map fun cause => "   " ++ ": ".intercalate cause.chain ++ "\n"
  error.message ++ "\n"
    ++ (if context.isEmpty then "" else "\nContext:\n" ++ String.join context)
    ++ (if causes.isEmpty then "" else "\nSources:\n" ++ String.join causes)

/-! ## Nested outline -/

namespace Outline

/-- Lines moved one level to the right. -/
def indent (lines : List String) : List String := lines.map ("    " ++ ·)

/-- Lines with a comma after the last one. -/
def withComma : List String → List String
  | [] => []
  | [last] => [last ++ ","]
  | line :: rest => line :: withComma rest

/-- An item between brackets, each of its parts on lines of its own. -/
def bracketed (opening closing : String) (parts : List (List String)) : List String :=
  if parts.isEmpty then [opening ++ closing]
  else [opening] ++ indent (parts.flatMap withComma) ++ [closing]

/-- A part with its name before it. -/
def named (name : String) : List String → List String
  | [] => [name ++ ": "]
  | first :: rest => (name ++ ": " ++ first) :: rest

/-- A text in quotes. -/
def quoted (text : String) : String := String.ofList (Text.quoted text.toList)

end Outline

mutual

/-- The lines that show an error as a nested structure. -/
def Error.outlineLines : Error → List String
  | .mk message context causes =>
    Outline.bracketed "Error \x7b" "\x7d"
      [Outline.named "message" [Outline.quoted message],
       Outline.named "context" (Outline.bracketed "[" "]" (context.map fun entry =>
         Outline.bracketed "(" ")" [[Outline.quoted entry.1], [Outline.quoted entry.2]])),
       Outline.named "sources" (Outline.bracketed "[" "]" (Cause.outlines causes))]

/-- The lines that show a cause as a nested structure. -/
def Cause.outlineLines : Cause → List String
  | .error error => error.outlineLines
  | .io text =>
    Outline.bracketed "Custom \x7b" "\x7d"
      [Outline.named "kind" ["Other"], Outline.named "error" [Outline.quoted text]]
  | .formatting => ["Error"]
  | .foreign text => [Outline.quoted text]

/-- The outlines of several causes. -/
def Cause.outlines : List Cause → List (List String)
  | [] => []
  | cause :: rest => cause.outlineLines :: Cause.outlines rest

end

/-- The error as a nested structure, one part a line. -/
def Error.outline (error : Error) : String := "\n".intercalate error.outlineLines

end LogLine

/-
  Pattern/Builtin.lean --- the converters that come with the library.

      %m %msg %message                  the message
      %p %level                         the level
      %c %logger                        the target
      %t %tn %thread %threadName        the name of the thread
      %d %date                          the time
      %n                                a newline
      %ex %exception %throwable         the error attached to the record
      %X %mdc %MDC                      entries of the record and its context
      %F %file  %L %line  %M %module    the place of the record
      %l %location                      all of the place
      %pid %processId                   the process
      %style %black ... %yellow         an inner pattern in a style
      %highlight                        an inner pattern in the style of the level
      %notEmpty %varsNotEmpty ...       an inner pattern unless it shows nothing
      %maxLen %maxLength                an inner pattern, cut
      %replace                          an inner pattern with matches replaced
-/
import LogLine.Pattern.Compile

set_option autoImplicit false

namespace LogLine.Builtin

/-- A plugin for patterns. -/
def plugin (name : String) (keys : List String) (create : Config → List Argument → Creation) :
    Plugin :=
  { name := name.toList, category := converterCategory, keys := keys.map String.toList, create }

/-- A plugin whose converter takes no options. -/
def plain (name : String) (keys : List String) (converter : Config → Converter) : Plugin :=
  plugin name keys fun config _ => .made (converter config) []

/-! ## Fields of a record -/

/-- Whether an option asks for markup. -/
def isMarkupOption (option : Argument) : Bool :=
  Text.sameIgnoringCase (Text.trim option.text) "ansi".toList

/-- What a message converter does with markup under its options. -/
def markupOf (config : Config) (options : List Argument) : Style.Markup :=
  if options.any isMarkupOption then
    if config.isAnsiEnabled then .rendered config.host.depth else .stripped
  else .verbatim

/-- The message. -/
def message : Plugin :=
  plugin "Message" ["m", "msg", "message"] fun config options =>
    .made (.message (markupOf config options)) []

/-- The level. -/
def level : Plugin :=
  plugin "Level" ["p", "level"] fun _ options =>
    match options with
    | [] => .made (.level none) []
    | option :: _ =>
      match LevelLabels.read option.text with
      | (.ok labels, reports) => .made (.level (some labels)) (reports.map .ignoredOption)
      | (.error error, reports) => .refused error (reports.map .ignoredOption)

/-- The target. -/
def logger : Plugin :=
  plugin "Logger" ["c", "logger"] fun _ options =>
    match options with
    | [] => .made (.logger .whole) []
    | option :: _ => .ofExcept ((NameAbbreviation.read option.text).map .logger)

/-- The name of the thread. -/
def thread : Plugin := plain "Thread" ["t", "tn", "thread", "threadName"] fun _ => .thread

/-- The time. -/
def date : Plugin :=
  plugin "Date" ["d", "date"] fun config options =>
    .ofFaults ((DateClock.ofOptions config.host (options.map Argument.text)).map .date)

/-- A newline. -/
def lineSeparator : Plugin := plain "LineSeparator" ["n"] fun _ => .lineSeparator

/-- The error attached to the record. -/
def throwable : Plugin :=
  plugin "Throwable" ["ex", "exception", "throwable"] fun _ options =>
    .ofExcept ((ThrownText.read (options.map Argument.text)).map .throwable)

/-- Entries of the record and its context. -/
def context : Plugin :=
  plugin "Mdc" ["X", "mdc", "MDC"] fun _ options =>
    match options with
    | [] => .made (.context {}) []
    | option :: _ => .made (.context (ContextKeys.read option.text)) []

/-- The name of the file. -/
def file : Plugin := plain "File" ["F", "file"] fun _ => .file

/-- The line. -/
def line : Plugin := plain "Line" ["L", "line"] fun _ => .line

/-- The path of the module. -/
def modulePath : Plugin := plain "Module" ["M", "module"] fun _ => .modulePath

/-- Module, file and line. -/
def location : Plugin := plain "Location" ["l", "location"] fun _ => .location

/-- The process identifier. -/
def processId : Plugin :=
  plain "ProcessId" ["pid", "processId"] fun config => .processId config.host.processId

/-! ## Inner patterns -/

/-- Goes on with the first option as a pattern. -/
def withPattern (options : List Argument) (next : Pattern → Creation) : Creation :=
  match options with
  | [] => .refused (Error.new "expected a nested pattern") []
  | option :: _ => .ofPattern option.asPattern.get next

/-- An inner pattern in the style of some names. -/
def styled (config : Config) (name names : Text) (pattern : Pattern) : Creation :=
  .made (.wrapped (.style name (Style.sequence config.host.depth names) config.isAnsiEnabled)
    pattern) []

/-- An inner pattern in a style. -/
def style : Plugin :=
  plugin "Style" ["style"] fun config options =>
    match options with
    | option :: names :: _ =>
      .ofPattern option.asPattern.get (styled config "Style".toList names.text)
    | _ =>
      .refused ((Error.new "expected a pattern and a style").withNumber "options" options.length) []

/-- An inner pattern in one color. -/
def namedStyle (name key : String) : Plugin :=
  plugin name [key] fun config options =>
    withPattern options (styled config name.toList key.toList)

/-- An inner pattern in the style of the level. -/
def highlight : Plugin :=
  plugin "Highlight" ["highlight"] fun config options =>
    withPattern options fun pattern =>
      let (styles, reports) := Style.Highlight.read config (options[1]?.map Argument.text)
      .made (.wrapped (.highlight (styles.sequence config.host.depth) styles.ansi) pattern)
        (reports.map .ignoredOption)

/-- An inner pattern unless it shows nothing. -/
def notEmpty : Plugin :=
  plugin "NotEmpty" ["notEmpty", "varsNotEmpty", "variablesNotEmpty"] fun _ options =>
    withPattern options fun pattern => .made (.wrapped .notEmpty pattern) []

/-- The limit that an option gives. -/
def limitOf (option : Text) : Except Error Nat :=
  match Text.readSize (Text.trim option) with
  | .ok limit => .ok limit
  | .error fault =>
    .error (((Error.new "malformed maximum length").withText "length" option).withCause
      (.foreign fault.message))

/-- An inner pattern, cut. -/
def maxLength : Plugin :=
  plugin "MaxLength" ["maxLen", "maxLength"] fun _ options =>
    withPattern options fun pattern =>
      match options[1]? with
      | none => .refused (Error.new "expected a maximum length") []
      | some option =>
        .ofExcept ((limitOf option.text).map fun limit => .wrapped (.maxLength limit) pattern)

/-- An inner pattern with matches replaced; its expression is read before it is
compiled. -/
def replace : Plugin :=
  plugin "Replace" ["replace"] fun config options =>
    match options with
    | option :: expression :: replacement :: _ =>
      match Regex.read expression.text config.host with
      | .error error => .refused error []
      | .ok regex =>
        .ofPattern option.asPattern.get fun pattern =>
          .made (.wrapped (.replace regex replacement.text) pattern) []
    | _ =>
      .refused ((Error.new "expected a pattern, a regex and a replacement").withNumber "options"
        options.length) []

/-- All converters that come with the library. -/
def registry : Registry :=
  [message, level, logger, thread, date, lineSeparator, throwable, context, file, line, modulePath,
   location, processId, style, highlight, notEmpty, maxLength, replace,
   namedStyle "Black" "black", namedStyle "Blue" "blue", namedStyle "Cyan" "cyan",
   namedStyle "Green" "green", namedStyle "Magenta" "magenta", namedStyle "Red" "red",
   namedStyle "White" "white", namedStyle "Yellow" "yellow"]

/-- The table of the converters that come with the library. -/
def rules : Rules := (Rules.ofRegistry registry converterCategory).1

end LogLine.Builtin

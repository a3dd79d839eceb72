import Railroad.Text.Numeral
import Railroad.Visual.Layout

/-!
# Arguments of the command line

A command line is a command with its options and at most one pattern. Options are long or short, short
flags can be bundled, and a value follows its option or is attached to it. A value is looked at when the
next argument has been recognised, so of two faults the one that is recognised first is reported.
-/

namespace Railroad.CommandLine

/-- Why a command line is not carried out. -/
inductive Usage where
  /-- Help was asked for. -/
  | displayHelp
  /-- The version was asked for. -/
  | displayVersion
  /-- There is no command. -/
  | displayHelpOnMissingArgumentOrSubcommand
  /-- There is no such command. -/
  | invalidSubcommand
  /-- There is no such option, or one pattern too many. -/
  | unknownArgument
  /-- An option has no value, or one that is not among its choices. -/
  | invalidValue
  /-- A zoom is no whole number within the bounds. -/
  | valueValidation
  /-- The pattern is missing. -/
  | missingRequiredArgument
  /-- An option is given twice. -/
  | argumentConflict
  /-- A flag has a value. -/
  | tooManyValues
  deriving DecidableEq, Repr

namespace Usage

/-- The name of the reason. -/
def name : Usage → String
  | displayHelp => "DisplayHelp"
  | displayVersion => "DisplayVersion"
  | displayHelpOnMissingArgumentOrSubcommand => "DisplayHelpOnMissingArgumentOrSubcommand"
  | invalidSubcommand => "InvalidSubcommand"
  | unknownArgument => "UnknownArgument"
  | invalidValue => "InvalidValue"
  | valueValidation => "ValueValidation"
  | missingRequiredArgument => "MissingRequiredArgument"
  | argumentConflict => "ArgumentConflict"
  | tooManyValues => "TooManyValues"

/-- The exit code: zero where help or the version was asked for. -/
def exitCode : Usage → Nat
  | displayHelp | displayVersion => 0
  | _ => 2

end Usage

/-- What a diagram is written as. -/
inductive Format where
  /-- Indented lines. -/
  | outline
  /-- Vector graphics. -/
  | svg
  /-- The shapes as structured text. -/
  | json
  /-- The syntax tree as structured text. -/
  | ast
  deriving DecidableEq, Repr

/-- The format with a name. -/
def Format.ofName? : String → Option Format
  | "outline" => some .outline
  | "svg" => some .svg
  | "json" => some .json
  | "ast" => some .ast
  | _ => none

/-- A command with its options. -/
inductive Command where
  /-- Draw the diagram of a pattern. -/
  | draw (pattern : String) (scale : Nat) (format : Format)
  /-- Run a pattern against a text, from a file or from standard input. -/
  | test (pattern : String) (file : Option String) (template : String)
      (everywhere ignoreCase multiLine json : Bool)
  /-- Print the reference sheet. -/
  | reference (withCatalogue : Bool)
  deriving DecidableEq, Repr

/-- An option, by its long name. -/
structure Param where
  /-- The name behind two minus signs. -/
  long : String
  /-- The letter behind one minus sign, if there is one. -/
  short : Option Char
  /-- Whether the option has a value. -/
  takesValue : Bool
  deriving DecidableEq, Repr

/-- The option that asks for help, which every command has. -/
def helpParam : Param := ⟨"help", some 'h', false⟩

/-- What a command accepts. -/
structure Spec where
  /-- The name of the command. -/
  name : String
  /-- Its options. -/
  params : List Param
  /-- Whether it needs a pattern, which is otherwise not accepted. -/
  hasPattern : Bool

/-- The commands. -/
def specs : List Spec := [
  ⟨"show", [⟨"scale", none, true⟩, ⟨"format", none, true⟩, helpParam], true⟩,
  ⟨"test", [⟨"file", some 'f', true⟩, ⟨"replace", some 'r', true⟩, ⟨"global", some 'g', false⟩,
    ⟨"ignore-case", some 'i', false⟩, ⟨"multiline", some 'm', false⟩, ⟨"json", none, false⟩,
    helpParam], true⟩,
  ⟨"cheatsheet", [⟨"patterns", none, false⟩, helpParam], false⟩]

/-- The whole number that a text is, with or without a sign, if it fits into 64 bits. -/
def integer? (text : String) : Option Int :=
  match text.toList with
  | '-' :: digits =>
    match Text.decimal? digits with
    | some n => if n ≤ 1 <<< 63 then some (-(n : Int)) else none
    | none => none
  | digits =>
    match Text.decimal? (Text.withoutPlus digits) with
    | some n => if n < 1 <<< 63 then some n else none
    | none => none

/-- The zoom that a text is, if it is within the bounds. -/
def scale? (text : String) : Option Nat :=
  match integer? text with
  | some n => if (minScale : Int) ≤ n ∧ n ≤ maxScale then some n.toNat else none
  | none => none

/-- Checks the value of an option. -/
def checkValue (param : Param) (value : String) : Except Usage Unit :=
  match param.long with
  | "scale" => if (scale? value).isSome then .ok () else .error .valueValidation
  | "format" => if (Format.ofName? value).isSome then .ok () else .error .invalidValue
  | "file" => if value.isEmpty then .error .invalidValue else .ok ()
  | _ => .ok ()

/-- How far the arguments of a command have been read. -/
structure Progress where
  /-- The options that have been settled, with their values. -/
  settled : List (Param × String)
  /-- An option that has not been settled, with its value if that has been read. -/
  pending : Option (Param × Option String)
  /-- The pattern. -/
  pattern : Option String

namespace Progress

/-- Settles an option with a value. -/
def settle (progress : Progress) (param : Param) (value : String) : Except Usage Progress :=
  if progress.settled.any (·.1 == param) then .error .argumentConflict
  else
    match checkValue param value with
    | .ok _ => .ok { progress with settled := (param, value) :: progress.settled }
    | .error usage => .error usage

/-- Settles the option that has not been settled. -/
def resolve (progress : Progress) : Except Usage Progress :=
  match progress.pending with
  | none => .ok progress
  | some (_, none) => .error .invalidValue
  | some (param, some value) => { progress with pending := none }.settle param value

/-- Takes an option with the value attached to it, if any. -/
def option (progress : Progress) (param : Param) (attached : Option String) :
    Except Usage Progress :=
  match progress.resolve with
  | .error usage => .error usage
  | .ok progress =>
    if param = helpParam then .error .displayHelp
    else if param.takesValue then
      match attached with
      | some value => progress.settle param value
      | none => .ok { progress with pending := some (param, none) }
    else progress.settle param ""

/-- Takes an argument that is no option: the value of the pending option, unless options have ended, or
the pattern. -/
def plain (spec : Spec) (progress : Progress) (trailing : Bool) (arg : String) :
    Except Usage Progress :=
  match progress.pending, trailing with
  | some (param, none), false => .ok { progress with pending := some (param, some arg) }
  | _, _ =>
    if spec.hasPattern && progress.pattern.isNone then
      match progress.resolve with
      | .ok progress => .ok { progress with pattern := some arg }
      | .error usage => .error usage
    else .error .unknownArgument

/-- Takes a long option, by the text behind its two minus signs. -/
def long (spec : Spec) (progress : Progress) (text : List Char) : Except Usage Progress :=
  let name := String.ofList (text.takeWhile (· != '='))
  let attached := match text.dropWhile (· != '=') with
    | [] => none
    | _ :: value => some (String.ofList value)
  match spec.params.find? (·.long == name) with
  | none => .error .unknownArgument
  | some param =>
    if !param.takesValue && attached.isSome then .error .tooManyValues
    else progress.option param attached

/-- Takes a bundle of short options, by the text behind their minus sign. The first one with a value
takes the rest of the text, from which one equals sign is dropped. -/
def short (spec : Spec) (progress : Progress) : List Char → Except Usage Progress
  | [] => .ok progress
  | letter :: rest =>
    match spec.params.find? (·.short == some letter) with
    | none => .error .unknownArgument
    | some param =>
      if param.takesValue then
        match rest with
        | [] => progress.option param none
        | '=' :: value => progress.option param (some (String.ofList value))
        | value => progress.option param (some (String.ofList value))
      else
        match progress.option param none with
        | .ok progress => progress.short spec rest
        | .error usage => .error usage

/-- Takes an argument in front of the end of options. -/
def argument (spec : Spec) (progress : Progress) (arg : String) : Except Usage Progress :=
  match arg.toList with
  | '-' :: '-' :: text => progress.long spec text
  | '-' :: c :: text => progress.short spec (c :: text)
  | _ => progress.plain spec false arg

/-- Takes all arguments. Two minus signs alone end the options. -/
def arguments (spec : Spec) (progress : Progress) (trailing : Bool) :
    List String → Except Usage Progress
  | [] => progress.resolve
  | arg :: args =>
    if trailing then
      match progress.plain spec true arg with
      | .ok progress => progress.arguments spec true args
      | .error usage => .error usage
    else if arg = "--" then progress.arguments spec true args
    else
      match progress.argument spec arg with
      | .ok progress => progress.arguments spec false args
      | .error usage => .error usage

/-- The value of an option that was given. -/
def value? (progress : Progress) (name : String) : Option String :=
  (progress.settled.find? (·.1.long == name)).map (·.2)

/-- Whether an option was given. -/
def has (progress : Progress) (name : String) : Bool := (progress.value? name).isSome

/-- The command that the arguments make. -/
def command (progress : Progress) (spec : Spec) : Except Usage Command :=
  match spec.name, progress.pattern with
  | "show", some pattern =>
    .ok (.draw pattern (((progress.value? "scale").bind scale?).getD defaultScale)
      (((progress.value? "format").bind Format.ofName?).getD .outline))
  | "test", some pattern =>
    .ok (.test pattern (progress.value? "file") ((progress.value? "replace").getD "")
      (progress.has "global") (progress.has "ignore-case") (progress.has "multiline")
      (progress.has "json"))
  | "cheatsheet", _ => .ok (.reference (progress.has "patterns"))
  | _, _ => .error .missingRequiredArgument

end Progress

/-- The answer to a request for help on commands. -/
def helpOn : List String → Usage
  | [] => .displayHelp
  | [name] =>
    if name = "help" || specs.any (·.name == name) then .displayHelp else .invalidSubcommand
  | _ => .invalidSubcommand

/-- The fault of an argument where a command is expected. -/
def notACommand (arg : String) : Usage :=
  match arg.toList with
  | '-' :: '-' :: text =>
    if text = "help".toList then .displayHelp
    else if text = "version".toList then .displayVersion
    else
      let name := text.takeWhile (· != '=')
      if name = "help".toList || name = "version".toList then .tooManyValues
      else .unknownArgument
  | '-' :: 'h' :: _ => .displayHelp
  | '-' :: 'V' :: _ => .displayVersion
  | '-' :: _ :: _ => .unknownArgument
  | _ => .invalidSubcommand

/-- The fault of the first argument behind two minus signs where a command is expected. -/
def afterSeparator : List String → Usage
  | [] => .displayHelpOnMissingArgumentOrSubcommand
  | arg :: _ =>
    if arg = "help" || specs.any (·.name == arg) then .unknownArgument else .invalidSubcommand

/-- Reads a command line, without the name of the program. -/
def readArguments : List String → Except Usage Command
  | [] => .error .displayHelpOnMissingArgumentOrSubcommand
  | arg :: args =>
    match specs.find? (·.name == arg) with
    | some spec =>
      match Progress.arguments spec ⟨[], none, none⟩ false args with
      | .ok progress => progress.command spec
      | .error usage => .error usage
    | none =>
      if arg = "help" then .error (helpOn args)
      else if arg = "--" then .error (afterSeparator args)
      else .error (notACommand arg)

end Railroad.CommandLine

import SqlBridge.Command.Basic
import SqlBridge.Command.Format
import SqlBridge.Text.Numeral

/-!
# Command lines

A command line is options, the word of a command, and the command's own options and words. Options that
hold for every command may stand before or after its word, and count where they stand last. An option
takes its value from the same argument, after its letter or an equals sign, or from the next one, which
then may not look like an option. No option stands twice at one level, and two dashes end the options.
-/

namespace SqlBridge

/-- When terminal colours are written. -/
inductive ColourMode where
  | auto
  | always
  | never
deriving DecidableEq, Repr

/-- The options of the command line. -/
inductive OptionKey where
  | verbose | config | format | colour
  | store | host | size | precision | scale | fixedLength | unicode | isKey | value
deriving DecidableEq, Repr

namespace ColourMode

/-- The word for a mode. -/
def name : ColourMode → String
  | .auto => "auto"
  | .always => "always"
  | .never => "never"

/-- The mode with the given name. -/
def ofName? (name : String) : Option ColourMode :=
  [auto, always, never].find? (·.name == name)

/-- The colours that a mode asks for, given whether the output is a terminal. -/
def palette (m : ColourMode) (isTerminal : Bool) : Palette :=
  match m with
  | .auto => if isTerminal then .coloured else .plain
  | .always => .coloured
  | .never => .plain

end ColourMode

namespace OptionKey

/-- The word of an option, without its dashes. -/
def long : OptionKey → String
  | .verbose => "verbose"
  | .config => "config"
  | .format => "format"
  | .colour => "color"
  | .store => "store-type"
  | .host => "host-type"
  | .size => "size"
  | .precision => "precision"
  | .scale => "scale"
  | .fixedLength => "fixed-length"
  | .unicode => "unicode"
  | .isKey => "key"
  | .value => "value"

/-- The letter of an option. -/
def short? : OptionKey → Option Char
  | .verbose => some 'v'
  | .config => some 'c'
  | .format => some 'f'
  | .store => some 's'
  | .host => some 'H'
  | .isKey => some 'k'
  | _ => none

/-- The option is a switch and takes no value. -/
def isSwitch : OptionKey → Bool
  | .verbose | .fixedLength | .isKey => true
  | _ => false

/-- The options of every command. -/
def shared : List OptionKey :=
  [.verbose, .config, .format, .colour]

/-- A number of 32 bits; a sign may stand before it. -/
def readNumber? (s : String) : Option UInt32 :=
  match s.toList with
  | '+' :: digits => Text.readUInt32? digits
  | '-' :: digits => (Text.readUInt32? digits).filter (· == 0)
  | digits => Text.readUInt32? digits

/-- The words of truth values. -/
def readBool? (s : String) : Option Bool :=
  if s = "true" then some true else if s = "false" then some false else none

/-- The option takes the value. -/
def takes (k : OptionKey) (value : String) : Bool :=
  match k with
  | .config => !value.isEmpty
  | .format => (OutputFormat.ofName? value).isSome
  | .colour => (ColourMode.ofName? value).isSome
  | .size | .precision | .scale => (readNumber? value).isSome
  | .unicode => (readBool? value).isSome
  | _ => true

end OptionKey

/-- Options with their values, switches with the empty one. -/
abbrev Settings : Type :=
  List (OptionKey × String)

/-- What an argument is. -/
inductive ArgumentShape where
  | word
  /-- Two dashes, after which only words come. -/
  | endOfOptions
  /-- Options that are complete. -/
  | settings (s : Settings)
  /-- Options, the last of which takes its value from the next argument. -/
  | awaiting (s : Settings) (key : OptionKey)
  | unknown

namespace ArgumentShape

/-- Letters behind one dash: switches, up to an option whose value follows them. -/
def ofLetters (keys : List OptionKey) : Settings → List Char → ArgumentShape
  | s, [] => .settings s
  | s, c :: rest =>
    match keys.find? (·.short? == some c) with
    | none => .unknown
    | some k =>
      if k.isSwitch then ofLetters keys (s ++ [(k, "")]) rest
      else
        match rest with
        | [] => .awaiting s k
        | '=' :: value => .settings (s ++ [(k, String.ofList value)])
        | value => .settings (s ++ [(k, String.ofList value)])

/-- A word behind two dashes, with a value after an equals sign or not. -/
def ofLong (keys : List OptionKey) (body : List Char) : ArgumentShape :=
  let word := String.ofList (body.takeWhile (· != '='))
  match keys.find? (·.long == word), body.dropWhile (· != '=') with
  | none, _ => .unknown
  | some k, [] => if k.isSwitch then .settings [(k, "")] else .awaiting [] k
  | some k, _ :: value => if k.isSwitch then .unknown else .settings [(k, String.ofList value)]

/-- What an argument is where the given options may stand. -/
def of (keys : List OptionKey) (argument : String) : ArgumentShape :=
  match argument.toList with
  | ['-', '-'] => .endOfOptions
  | '-' :: '-' :: body => ofLong keys body
  | ['-'] => .word
  | '-' :: letters => ofLetters keys [] letters
  | _ => .word

end ArgumentShape

namespace Settings

/-- The value of an option. -/
def get? (k : OptionKey) (s : Settings) : Option String :=
  Entries.get? k s

/-- A switch is set. -/
def has (k : OptionKey) (s : Settings) : Bool :=
  (get? k s).isSome

/-- The number that is the value of an option. -/
def number? (k : OptionKey) (s : Settings) : Option UInt32 :=
  (get? k s).bind OptionKey.readNumber?

/-- No option stands twice, and each takes its value. -/
def isValid (s : Settings) : Bool :=
  decide (s.map (·.1)).Nodup && s.all fun e => e.1.takes e.2

end Settings

/-- The program's command line: what holds for every command, and the command. -/
structure Invocation where
  verbose : Bool
  config : Option String
  format : OutputFormat
  colour : ColourMode
  command : Command

namespace Invocation

/-- The argument can be the value of the option before it. -/
def isValue (argument : String) : Bool :=
  argument == "-" || argument.toList.head? != some '-'

/-- Reads options and words. With `stop`, reading ends at the first word, and it and the rest are
given. -/
def scan (keys : List OptionKey) (stop : Bool) : List String → Option (Settings × List String)
  | [] => some ([], [])
  | argument :: rest =>
    match ArgumentShape.of keys argument with
    | .word =>
      if stop then some ([], argument :: rest)
      else (scan keys stop rest).map fun p => (p.1, argument :: p.2)
    | .endOfOptions => if stop then none else some ([], rest)
    | .settings s => (scan keys stop rest).map fun p => (s ++ p.1, p.2)
    | .awaiting s k =>
      match rest with
      | value :: rest =>
        if isValue value then
          (scan keys stop rest).map fun p => (s ++ (k, value) :: p.1, p.2)
        else none
      | [] => none
    | .unknown => none

/-- The valid options and the words among arguments. -/
def scanAll (keys : List OptionKey) (stop : Bool) (arguments : List String) :
    Option (Settings × List String) :=
  (scan keys stop arguments).filter fun p => p.1.isValid

/-- The options that a command has of its own. -/
def ownKeys (command : String) : List OptionKey :=
  if command = "map" then
    [.store, .host, .size, .precision, .scale, .fixedLength, .unicode, .isKey]
  else if command = "literal" then [.store, .host, .value]
  else []

/-- The command of a name, from its options and words. -/
def command? (name : String) (s : Settings) (words : List String) : Option Command :=
  match words with
  | [] =>
    if name = "map" then
      some (.map {
        store := s.get? .store
        host := s.get? .host
        size := s.number? .size
        precision := s.number? .precision
        scale := s.number? .scale
        fixedLength := s.has .fixedLength
        unicode := (s.get? .unicode).bind OptionKey.readBool?
        isKey := s.has .isKey })
    else if name = "literal" then
      (s.get? .value).map fun value =>
        .literal { store := s.get? .store, host := s.get? .host, value }
    else if name = "types" then some .types
    else none
  | [raw] => if name = "parse-type" then some (.parseType raw) else none
  | _ => none

/-- Reads the arguments of the program. -/
def ofArguments? (arguments : List String) : Option Invocation := do
  let (before, rest) ← scanAll OptionKey.shared true arguments
  match rest with
  | [] => none
  | name :: rest =>
    let (after, words) ← scanAll (OptionKey.shared ++ ownKeys name) false rest
    let command ← command? name after words
    let get := fun k : OptionKey => after.get? k <|> before.get? k
    return {
      verbose := (get .verbose).isSome
      config := get .config
      format := ((get .format).bind OutputFormat.ofName?).getD .pretty
      colour := ((get .colour).bind ColourMode.ofName?).getD .auto
      command }

end Invocation

/-- What a run of the program leaves. -/
inductive Outcome where
  /-- The text for the standard output. -/
  | success (output : String)
  /-- The text for the standard error output. -/
  | failure (message : String)
deriving DecidableEq, Repr

/-- Runs the program with the text of the options file, if one is named and can be read. -/
def Invocation.run (i : Invocation) (p : Palette)
    (options : Except CommandFailure (Option String)) : Outcome :=
  let registry := do Command.registryFor (← options)
  match i.command.run registry with
  | .ok document => .success (i.format.write document ++ "\n")
  | .error failure => .failure (failure.text p ++ "\n")

end SqlBridge

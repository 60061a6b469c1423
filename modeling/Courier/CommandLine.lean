import Courier.Address
import Courier.Callback.Proxy

namespace Courier

/-! The command line of the program.

An option is a word behind two dashes or a letter behind one; its value is
joined to it or is the next argument, which then does not start with a dash.
The command comes first, apart from the options that every command takes. -/

/-- What the program is asked to do. -/
inductive Command where
  | serve (host : String) (port : Nat)
  | send (address : String) (json : Option String) (policy : DeliveryPolicy)
deriving DecidableEq, Repr

namespace CommandLine

inductive Misuse where
  | missingCommand
  | unknownArgument (argument : String)
  | unwantedValue (name : String)
  | missingValue (name : String)
  | repeated (name : String)
  | missingOption (name : String)
  | invalidValue (name value : String)
deriving DecidableEq, Repr

def Misuse.message : Misuse → String
  | .missingCommand => "a command is required: serve or send"
  | .unknownArgument argument => "unexpected argument '" ++ argument ++ "'"
  | .unwantedValue name => "'--" ++ name ++ "' takes no value"
  | .missingValue name => "'--" ++ name ++ "' needs a value"
  | .repeated name => "'--" ++ name ++ "' is given more than once"
  | .missingOption name => "'--" ++ name ++ "' is required"
  | .invalidValue name value => "'" ++ value ++ "' is no value for '--" ++ name ++ "'"

/-- An option: its name, its letter, and what its values are like, if it has
values. -/
structure OptionForm where
  name : String
  letter : Option Char := none
  valid : Option (String → Bool) := none

namespace OptionForm

def takesValue (form : OptionForm) : Bool :=
  form.valid.isSome

end OptionForm

/-- A port, which may have a sign. -/
def port? (text : String) : Option Nat :=
  let (negative, digits) :=
    match text.toList with
    | '-' :: digits => (true, digits)
    | '+' :: digits => (false, digits)
    | digits => (false, digits)
  match Address.number Address.portNumber digits with
  | some (value, []) => if negative && value ≠ 0 then none else some value
  | _ => none

def help : OptionForm := { name := "help", letter := some 'h' }
def debug : OptionForm := { name := "debug", letter := some 'd' }

def everywhere : List OptionForm := [debug, help]

def serveForms : List OptionForm :=
  [{ name := "port", letter := some 'p', valid := some fun text => (port? text).isSome },
    { name := "host", valid := some fun _ => true }] ++ everywhere

def sendForms : List OptionForm :=
  [{ name := "addr", valid := some fun text => (Endpoint.parse? text).isSome },
    { name := "json", valid := some fun _ => true },
    { name := "ack" }] ++ everywhere

/-- What stands in the arguments.  Nothing is read behind a misuse. -/
inductive Item where
  | option (form : OptionForm) (value : Option String)
  | word (text : String)
  | misuse (reason : Misuse)

/-- What one argument says, and the option whose value the next one is. -/
structure Reading where
  items : List Item
  wanting : Option OptionForm := none

def letters (forms : List OptionForm) : List Char → Reading
  | [] => ⟨[], none⟩
  | letter :: rest =>
      match forms.find? fun form => form.letter == some letter with
      | none => ⟨[.misuse (.unknownArgument (String.ofList ['-', letter]))], none⟩
      | some form =>
          if form.takesValue then
            match rest with
            | [] => ⟨[], some form⟩
            | '=' :: value => ⟨[.option form (some (String.ofList value))], none⟩
            | value => ⟨[.option form (some (String.ofList value))], none⟩
          else
            let more := letters forms rest
            { more with items := .option form none :: more.items }

/-- Reads the word behind two dashes, and the value behind an equals sign. -/
def spelled (forms : List OptionForm) (text : List Char) : Reading :=
  let name := String.ofList (text.takeWhile (· ≠ '='))
  match forms.find? fun form => form.name == name with
  | none => ⟨[.misuse (.unknownArgument (String.ofList ('-' :: '-' :: text)))], none⟩
  | some form =>
      match text.dropWhile (· ≠ '='), form.takesValue with
      | [], true => ⟨[], some form⟩
      | [], false => ⟨[.option form none], none⟩
      | _ :: value, true => ⟨[.option form (some (String.ofList value))], none⟩
      | _ :: _, false => ⟨[.misuse (.unwantedValue name)], none⟩

def reading (forms : List OptionForm) (argument : String) : Reading :=
  match argument.toList with
  | '-' :: '-' :: text => spelled forms text
  | '-' :: letter :: rest => letters forms (letter :: rest)
  | _ => ⟨[.word argument], none⟩

def isValue (argument : String) : Bool :=
  match argument.toList with
  | '-' :: _ :: _ => false
  | _ => true

/-- Reads arguments.  Behind two dashes alone there are only words. -/
def items (forms : List OptionForm) : List String → List Item
  | [] => []
  | argument :: rest =>
      if argument = "--" then rest.map Item.word
      else
        let reading := reading forms argument
        match reading.wanting, rest with
        | none, rest => reading.items ++ items forms rest
        | some form, [] => reading.items ++ [.misuse (.missingValue form.name)]
        | some form, value :: rest =>
            if isValue value then
              reading.items ++ .option form (some value) :: items forms rest
            else reading.items ++ [.misuse (.missingValue form.name)]

abbrev Given := List (String × Option String)

/-- What arguments come to: help, or the options that were given. -/
inductive Choice where
  | help
  | options (given : Given)
deriving DecidableEq, Repr

/-- Collects the options of a command in order; `given` holds those before. -/
def collect (given : Given) : List Item → Except Misuse Choice
  | [] => .ok (.options given)
  | .misuse reason :: _ => .error reason
  | .word text :: _ => .error (.unknownArgument text)
  | .option form value :: rest =>
      if form.name = help.name then .ok .help
      else if given.any fun earlier => earlier.1 == form.name then
        .error (.repeated form.name)
      else
        match form.valid, value with
        | some valid, some text =>
            if valid text then collect (given ++ [(form.name, value)]) rest
            else .error (.invalidValue form.name text)
        | _, _ => collect (given ++ [(form.name, value)]) rest

def valueOf (given : Given) (name : String) : Option String :=
  (given.find? fun option => option.1 == name).bind Prod.snd

def isGiven (given : Given) (name : String) : Bool :=
  given.any fun option => option.1 == name

inductive Invocation where
  | help
  | run (command : Command) (debug : Bool)
deriving DecidableEq, Repr

def serve (given : Given) : Except Misuse Command :=
  .ok (.serve ((valueOf given "host").getD "127.0.0.1")
    (((valueOf given "port").bind port?).getD 0))

def send (given : Given) : Except Misuse Command :=
  match valueOf given "addr" with
  | none => .error (.missingOption "addr")
  | some address =>
      .ok (.send address (valueOf given "json")
        (if isGiven given "ack" then .acknowledged else .oneWay))

structure CommandForm where
  name : String
  options : List OptionForm
  build : Given → Except Misuse Command

def commands : List CommandForm :=
  [⟨"serve", serveForms, serve⟩, ⟨"send", sendForms, send⟩]

def parseCommand (form : CommandForm) (debugging : Bool) (arguments : List String) :
    Except Misuse Invocation :=
  match collect [] (items form.options arguments) with
  | .error reason => .error reason
  | .ok .help => .ok .help
  | .ok (.options given) =>
      (form.build given).map fun command =>
        .run command (debugging || isGiven given debug.name)

def parseHelp : List String → Except Misuse Invocation
  | [] => .ok .help
  | argument :: rest =>
      if argument = "help" || commands.any fun form => form.name == argument then
        match rest with
        | [] => .ok .help
        | extra :: _ => .error (.unknownArgument extra)
      else .error (.unknownArgument argument)

/-- Reads arguments; `given` holds the options before them. -/
def parseFrom (given : Given) : List String → Except Misuse Invocation
  | [] => .error .missingCommand
  | argument :: rest =>
      match commands.find? fun form => form.name == argument with
      | some form => parseCommand form (isGiven given debug.name) rest
      | none =>
          if argument = "help" then parseHelp rest
          else if argument = "--" then .error .missingCommand
          else
            match collect given (reading everywhere argument).items with
            | .error reason => .error reason
            | .ok .help => .ok .help
            | .ok (.options given) => parseFrom given rest

def parse (arguments : List String) : Except Misuse Invocation :=
  parseFrom [] arguments

end CommandLine

end Courier

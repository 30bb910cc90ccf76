import Catalog.Numeric.Numeral
import Catalog.Text.Blank

set_option autoImplicit false

namespace Catalog

inductive Command where
  | serve (config : String) (port : Option Nat)
  | compile (entity : String) (seed : Option String) (query : String)
deriving DecidableEq, Repr

inductive HelpTopic where
  | program
  | serve
  | compile
  | help
deriving DecidableEq, Repr

inductive UsageError where
  | help (topic : HelpTopic)
  | version
  | noCommand
  | unknownCommand (name : String)
  | unknownArgument (text : String)
  | missingValue (option : String)
  | invalidValue (option value : String)
  | unneededValue (option : String)
  | repeated (option : String)
  | missingArgument (name : String)
deriving DecidableEq, Repr

namespace Command

inductive ValueKind where
  | text
  | path
  | port
deriving DecidableEq, Repr

def readPort? (s : String) : Option Nat :=
  match Numeral.integer? s with
  | some n => if 0 ≤ n ∧ n < Int.pow 2 16 then some n.toNat else none
  | none => none

def ValueKind.check (kind : ValueKind) (option value : String) : Except UsageError Unit :=
  match kind with
  | .text => .ok ()
  | .path => if value = "" then .error (.missingValue option) else .ok ()
  | .port => if (readPort? value).isSome then .ok () else .error (.invalidValue option value)

structure Signature where
  topic : HelpTopic
  options : List (String × ValueKind)
  positional : Option String
deriving Repr

def serveSignature : Signature := ⟨.serve, [("config", .path), ("port", .port)], none⟩

def compileSignature : Signature :=
  ⟨.compile, [("entity", .text), ("seed", .path)], some "query"⟩

structure Reading where
  settled : List (String × String) := []
  pending : Option (String × Option String) := none
  positionalGiven : Bool := false
deriving Repr

namespace Reading

def value? (r : Reading) (name : String) : Option String := r.settled.lookup name

def settle (s : Signature) (r : Reading) (name value : String) : Except UsageError Reading := do
  if (r.value? name).isSome then throw (.repeated name)
  ((s.options.lookup name).getD .text).check name value
  return { r with settled := r.settled ++ [(name, value)], pending := none }

def resolve (s : Signature) (r : Reading) : Except UsageError Reading :=
  match r.pending with
  | none => .ok r
  | some (name, none) => .error (.missingValue name)
  | some (name, some value) => r.settle s name value

def takePositional (s : Signature) (r : Reading) (text : String) : Except UsageError Reading :=
  match s.positional with
  | some name =>
    if r.positionalGiven then .error (.unknownArgument text)
    else do
      let r ← r.resolve s
      return { r with pending := some (name, some text), positionalGiven := true }
  | none => .error (.unknownArgument text)

def askHelp (s : Signature) (r : Reading) : Except UsageError Reading := do
  let _ ← r.resolve s
  throw (.help s.topic)

def takeLong (s : Signature) (r : Reading) (body : List Char) : Except UsageError Reading :=
  let name := String.ofList (body.takeWhile (· ≠ '='))
  match body.dropWhile (· ≠ '=') with
  | [] =>
    if name = "help" then r.askHelp s
    else if (s.options.lookup name).isSome then do
      let r ← r.resolve s
      return { r with pending := some (name, none) }
    else .error (.unknownArgument name)
  | _ :: value =>
    if name = "help" then .error (.unneededValue name)
    else if (s.options.lookup name).isSome then do
      let r ← r.resolve s
      r.settle s name (String.ofList value)
    else .error (.unknownArgument name)

def take (s : Signature) (r : Reading) (text : String) : Except UsageError Reading :=
  match text.toList with
  | '-' :: '-' :: body => r.takeLong s body
  | '-' :: letter :: _ => if letter = 'h' then r.askHelp s else .error (.unknownArgument text)
  | _ =>
    match r.pending with
    | some (name, none) => .ok { r with pending := some (name, some text) }
    | _ => r.takePositional s text

-- After two hyphens alone, all that follows is positional.
def takeAll (s : Signature) (r : Reading) : List String → Except UsageError Reading
  | [] => r.resolve s
  | "--" :: rest => do
    let r ← rest.foldlM (fun r text => r.takePositional s text) r
    r.resolve s
  | text :: rest => do
    let r ← r.take s text
    r.takeAll s rest

end Reading

def readServe (args : List String) : Except UsageError Command := do
  let r ← Reading.takeAll serveSignature {} args
  return .serve ((r.value? "config").getD "./catalogd.json") ((r.value? "port").bind readPort?)

def readCompile (args : List String) : Except UsageError Command := do
  let r ← Reading.takeAll compileSignature {} args
  match r.value? "query" with
  | some query => return .compile ((r.value? "entity").getD "product") (r.value? "seed") query
  | none => throw (.missingArgument "query")

def topicOf? (name : String) : Option HelpTopic :=
  if name = "serve" then some .serve
  else if name = "compile" then some .compile
  else if name = "help" then some .help
  else none

def helpOn : List String → UsageError
  | [] => .help .program
  | name :: rest =>
    match topicOf? name, rest with
    | some topic, [] => .help topic
    | some _, extra :: _ => .unknownCommand extra
    | none, _ => .unknownCommand name

def ofLongOption (body : List Char) : UsageError :=
  let name := String.ofList (body.takeWhile (· ≠ '='))
  if name ≠ "help" && name ≠ "version" then .unknownArgument name
  else if body.contains '=' then .unneededValue name
  else if name = "help" then .help .program
  else .version

def ofOption (text : String) : List Char → UsageError
  | '-' :: body => ofLongOption body
  | 'h' :: _ => .help .program
  | 'V' :: _ => .version
  | _ => .unknownArgument text

def read : List String → Except UsageError Command
  | [] => .error .noCommand
  | "--" :: [] => .error .noCommand
  | "--" :: name :: _ =>
    .error (if (topicOf? name).isSome then .unknownArgument "--" else .unknownCommand name)
  | "serve" :: args => readServe args
  | "compile" :: args => readCompile args
  | "help" :: args => .error (helpOn args)
  | name :: _ =>
    match name.toList with
    | '-' :: c :: rest => .error (ofOption name (c :: rest))
    | _ => .error (.unknownCommand name)

end Command
end Catalog

import Attestor.Text.Segments

namespace Attestor.CommandLine

inductive Operation where
  | check (image : String) (names : List String)
  | verify (image : String)
deriving DecidableEq, Repr

structure Arguments where
  settingsPath : Option String
  operation : Operation
deriving DecidableEq, Repr

inductive Invocation where
  | run (arguments : Arguments)
  | help
  | version
  | wrong
deriving DecidableEq, Repr

inductive Flag where
  | config
  | image
  | check
deriving DecidableEq, Repr

namespace Flag

def long : Flag → String
  | config => "config"
  | image => "image"
  | check => "check"

def short? : Flag → Option Char
  | config => some 'c'
  | image => some 'i'
  | check => none

end Flag

inductive Item where
  | option (flag : Flag) (value : String) (rest : List String)
  | word (text : String) (rest : List String)
  | nothing
  | help
  | version
  | wrong
deriving DecidableEq, Repr

namespace Item

def looksLikeOption (word : String) : Bool :=
  match word.toList with
  | '-' :: _ :: _ => true
  | _ => false

def detached (flag : Flag) : List String → Item
  | [] => wrong
  | value :: rest => if looksLikeOption value then wrong else option flag value rest

def ofLong (flags : List Flag) (versioned : Bool) (text : List Char) (rest : List String) : Item :=
  let (name, value) := Text.cut '=' text
  let name := String.ofList name
  match flags.find? (·.long == name), value with
  | some flag, some value => option flag (String.ofList value) rest
  | some flag, none => detached flag rest
  | none, some _ => wrong
  | none, none =>
    if name = "help" then help
    else if versioned && name = "version" then version
    else wrong

def ofShort (flags : List Flag) (versioned : Bool) (letter : Char) (text : List Char)
    (rest : List String) : Item :=
  match flags.find? (·.short? == some letter), text with
  | some flag, [] => detached flag rest
  | some flag, '=' :: value => option flag (String.ofList value) rest
  | some flag, value => option flag (String.ofList value) rest
  | none, _ =>
    if letter = 'h' then help
    else if versioned && letter = 'V' then version
    else wrong

def next (flags : List Flag) (versioned : Bool) : List String → Item
  | [] => nothing
  | first :: rest =>
    match first.toList with
    | ['-', '-'] => if rest.isEmpty then nothing else wrong
    | '-' :: '-' :: text => ofLong flags versioned text rest
    | '-' :: letter :: text => ofShort flags versioned letter text rest
    | _ => word first rest

end Item

structure Options where
  image : Option String := none
  names : List String := []

def Options.read (flags : List Flag) (operation : String → List String → Operation)
    (settingsPath : Option String) : (steps : Nat) → Options → List String → Invocation
  | 0, _, _ => .wrong
  | steps + 1, options, words =>
    match Item.next flags false words with
    | .option .check name rest =>
      read flags operation settingsPath steps { options with names := options.names ++ [name] } rest
    | .option .image image rest =>
      if options.image.isSome then .wrong
      else read flags operation settingsPath steps { options with image := some image } rest
    | .nothing =>
      match options.image with
      | some image => .run { settingsPath, operation := operation image options.names }
      | none => .wrong
    | .help => .help
    | _ => .wrong

namespace Invocation

def operations : List String :=
  ["check", "verify", "help"]

def read : (steps : Nat) → (settingsPath : Option String) → List String → Invocation
  | 0, _, _ => wrong
  | steps + 1, settingsPath, words =>
    match Item.next [.config] true words with
    | .option _ path rest => if settingsPath.isSome then wrong else read steps (some path) rest
    | .word "check" rest => Options.read [.image, .check] .check settingsPath (steps + 1) {} rest
    | .word "verify" rest =>
      Options.read [.image] (fun image _ => .verify image) settingsPath (steps + 1) {} rest
    | .word "help" [] => help
    | .word "help" [name] => if operations.contains name then help else wrong
    | .help => help
    | .version => version
    | _ => wrong

def ofWords (words : List String) : Invocation :=
  read (words.length + 1) none words

end Invocation

end Attestor.CommandLine

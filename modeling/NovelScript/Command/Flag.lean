import NovelScript.Text.Decimal

/-!
# Flags

The arguments of a command are flags and other words, in any order. A flag starts with one or two
dashes. Its value follows an equals sign or is the next argument; a switch needs none. Two dashes
alone make the next argument a word, whatever it looks like.
-/

namespace NovelScript.Command

/-- What a flag takes, and what it sets in the choices of a command. -/
inductive Setter (σ : Type) where
  /-- Any text. -/
  | text (set : Text → σ → σ)
  /-- A 64-bit integer. -/
  | int (set : Int → σ → σ)
  /-- A switch, which is on when no value is given. -/
  | switch (set : Bool → σ → σ)

/-- A flag of a command. -/
structure Flag (σ : Type) where
  /-- Its name, without dashes. -/
  name : Text
  /-- What it sets. -/
  setter : Setter σ

/-- What is wrong with flags. -/
inductive FlagError where
  /-- A command has no such flag. -/
  | unknown (name : Text)
  /-- An argument starts like a flag but names none. -/
  | malformed (argument : Text)
  /-- A value is missing. -/
  | noValue (name : Text)
  /-- A value is not the number it should be. -/
  | badNumber (name value : Text) (e : Text.NumberError)
  /-- A value of a switch is not a truth value. -/
  | badSwitch (name value : Text)
  /-- Somebody asked how the command is used. -/
  | help
deriving DecidableEq

/-- What is said about flags. -/
def FlagError.message : FlagError → Text
  | .unknown name => Text.lit "flag provided but not defined: -" ++ name
  | .malformed argument => Text.lit "bad flag syntax: " ++ argument
  | .noValue name => Text.lit "flag needs an argument: -" ++ name
  | .badNumber name value e =>
    Text.lit "invalid value " ++ Text.quoted value ++ Text.lit " for flag -" ++ name ++
      Text.lit (match e with
        | .malformed => ": parse error"
        | .outOfRange => ": value out of range")
  | .badSwitch name value =>
    Text.lit "invalid boolean value " ++ Text.quoted value ++ Text.lit " for -" ++ name ++
      Text.lit ": parse error"
  | .help => Text.lit "flag: help requested"

/-- The byte that a flag starts with. -/
def dash : UInt8 := 0x2D

/-- The byte between a flag and its value. -/
def equals : UInt8 := 0x3D

/-- The truth value that a word stands for. -/
def truth? (s : Text) : Option Bool :=
  if ["1", "t", "T", "TRUE", "true", "True"].any (Text.lit · == s) then some true
  else if ["0", "f", "F", "FALSE", "false", "False"].any (Text.lit · == s) then some false
  else none

/-- How an argument is to be read. -/
inductive Argument where
  /-- A word. -/
  | word
  /-- Two dashes alone. -/
  | escape
  /-- A flag without its dashes. -/
  | flag (body : Text)
deriving DecidableEq

/-- How an argument is to be read. -/
def Argument.ofText : Text → Argument
  | 0x2D :: 0x2D :: body => if body.isEmpty then .escape else .flag body
  | 0x2D :: b :: body => .flag (b :: body)
  | _ => .word

/-- The name of a flag and the value behind the equals sign, if there is one. A name is not empty
and starts neither with a dash nor with an equals sign. -/
def nameAndValue? : (body : Text) → Option (Text × Option Text)
  | [] => none
  | b :: body =>
    if b = dash ∨ b = equals then none
    else
      match Text.cut [equals] body with
      | some (name, value) => some (b :: name, some value)
      | none => some (b :: body, none)

/-- Is it a name by which somebody asks how a command is used? -/
def asksForHelp (name : Text) : Bool :=
  name == Text.lit "help" || name == Text.lit "h"

/-- The flag of a name. -/
def findFlag {σ : Type} (flags : List (Flag σ)) (name : Text) : Except FlagError (Flag σ) :=
  match flags.find? (·.name == name) with
  | some f => .ok f
  | none => .error (if asksForHelp name then .help else .unknown name)

/-- What a value does to the choices; a switch may go without one. -/
def Flag.set {σ : Type} (f : Flag σ) (value : Option Text) (s : σ) : Except FlagError σ :=
  match f.setter, value with
  | .switch put, none => .ok (put true s)
  | .switch put, some v => (truth? v).elim (.error (.badSwitch f.name v)) fun b => .ok (put b s)
  | .text put, some v => .ok (put v s)
  | .int put, some v =>
    match Text.literal64? v with
    | .ok n => .ok (put n s)
    | .error e => .error (.badNumber f.name v e)
  | _, none => .error (.noValue f.name)

/-- Does a flag take the next argument when it has no value of its own? -/
def Flag.takesNext {σ : Type} (f : Flag σ) : Bool :=
  match f.setter with
  | .switch _ => false
  | _ => true

/-- Reads the arguments of a command: the words in their order, and the choices after all flags. -/
def readArguments {σ : Type} (flags : List (Flag σ)) (s : σ) :
    List Text → Except FlagError (List Text × σ)
  | [] => .ok ([], s)
  | a :: rest =>
    match Argument.ofText a with
    | .word => do
      let (words, s) ← readArguments flags s rest
      return (a :: words, s)
    | .escape =>
      match rest with
      | [] => .ok ([], s)
      | w :: rest => do
        let (words, s) ← readArguments flags s rest
        return (w :: words, s)
    | .flag body =>
      match nameAndValue? body with
      | none => .error (.malformed a)
      | some (name, value) =>
        match findFlag flags name with
        | .error e => .error e
        | .ok f =>
          if f.takesNext && value.isNone then
            match rest with
            | [] => .error (.noValue name)
            | v :: rest => do readArguments flags (← f.set (some v) s) rest
          else do readArguments flags (← f.set value s) rest

end NovelScript.Command

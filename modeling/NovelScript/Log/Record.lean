import NovelScript.Log.Json
import NovelScript.Log.Level

/-!
# Records and lines

A record is something that happened: a level, a message and attributes. A logger hands it on with
what the logger itself carries: attributes and groups, in the order in which they were added. A
group holds everything that is added after it. The console shows a group as a name in front of the
keys, and the other form as an object inside the object.
-/

namespace NovelScript.Log

/-- Something that a logger was given before the record. -/
inductive Step where
  /-- Attributes. -/
  | attributes (as : List Attribute)
  /-- A group for all that follows. -/
  | group (name : Text)

/-- All that a logger was given, in order. -/
abbrev Chain := List Step

/-- Something that happened. -/
structure Record where
  /-- How much it matters. -/
  level : Level
  /-- What is said. -/
  message : Text := []
  /-- Further attributes. -/
  attributes : List Attribute := []
  /-- The place in the program, if it is known. -/
  place : Option Text := none

/-- The attributes that a record keeps: those that are no empty groups. -/
def kept (as : List Attribute) : List Attribute :=
  as.filter (!·.2.isEmptyGroup)

/-- The record with the attributes of what was going on around it. -/
def Record.within (r : Record) (context : List Attribute) : Record :=
  { r with attributes := r.attributes ++ context }

/-! ## The console -/

/-- Is it the attribute that says nothing: no key and no value? -/
def isVoid (key : Text) (v : Value) : Bool :=
  key.isEmpty && match v with
    | .nothing => true
    | _ => false

/-- An attribute on the console. -/
def attributeText (key : Text) (v : Value) : Text :=
  Text.lit " " ++ key ++ Text.lit "=" ++ v.shown

/-- The names of open groups in front of a key. -/
def groupText (groups : List Text) : Text :=
  groups.flatMap (· ++ Text.lit ".")

/-- The attributes of a logger, each behind the groups that were open when it was added. -/
def chainText (groups : List Text) : Chain → Text
  | [] => []
  | .group name :: more => chainText (if name.isEmpty then groups else groups ++ [name]) more
  | .attributes as :: more =>
    (as.flatMap fun a =>
      let key := groupText groups ++ a.1
      if isVoid key a.2 then [] else attributeText key a.2) ++ chainText groups more

/-- All groups that a logger has open. -/
def openGroups (chain : Chain) : List Text :=
  chain.filterMap fun
    | .group name => if name.isEmpty then none else some name
    | .attributes _ => none

/-- The line of a record on the console after the time, with the end of the line. -/
def consoleLine (chain : Chain) (r : Record) : Text :=
  r.level.short ++ (if r.message.isEmpty then [] else Text.lit " " ++ r.message) ++
    chainText [] chain ++
    ((kept r.attributes).flatMap fun a =>
      if isVoid a.1 a.2 then [] else attributeText (groupText (openGroups chain) ++ a.1) a.2) ++
    (match r.place with
    | some p => Text.lit " src=" ++ p
    | none => []) ++
    [Text.newline]

/-! ## Objects -/

/-- The members of a logger and of a record, each in the groups that were open before it. -/
def chainMembers (record : List Text) : Chain → List Text
  | [] => record
  | .group name :: more =>
    if name.isEmpty then chainMembers record more
    else Json.nested name (chainMembers record more)
  | .attributes as :: more => Json.ofAttributes as ++ chainMembers record more

/-- The line of a record as an object; `time` is written when it is known. -/
def jsonLine (time : Option Text) (chain : Chain) (r : Record) : Text :=
  Json.object
    ((time.map fun t => Json.member (Text.lit "time") (Json.string t)).toList ++
      [Json.member (Text.lit "level") (Json.string r.level.name)] ++
      (r.place.map fun p => Json.member (Text.lit "source") (Json.string p)).toList ++
      [Json.member (Text.lit "msg") (Json.string r.message)] ++
      chainMembers (Json.ofAttributes (kept r.attributes)) chain) ++
    [Text.newline]

end NovelScript.Log

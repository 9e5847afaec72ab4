import Chip8.Text.Digit
import Chip8.Text.Quoted

/-!
# Arguments of a command

A command takes options, which begin with dashes, and plain words. An option is known by its name or by
any beginning of a long name that fits no other option. Its value is the next word, or stands behind an
equals sign. Behind a word of two dashes all words are plain. A word that looks like a negative number is
plain as well.

* `Switch`: an option of a command.
* `Word`, `Word.ofArgument`: what an argument is, seen by itself.
* `Given`, `Reading`, `collect`: what is given by all arguments in a row.
* `Problem.message`: what can be wrong, in words.
-/

namespace Chip8.CommandLine

variable {ι : Type}

/-- An option of a command. An option with a short name takes no value. -/
structure Switch (ι : Type) where
  id : ι
  /-- The names with their dashes; long names begin with two. -/
  names : List String
  takesValue : Bool

/-- What can be wrong with arguments. -/
inductive Problem where
  | ambiguous (argument : String) (candidates : List String)
  /-- The value of an option is missing. -/
  | noValue (option : String)
  /-- An option without a value is given one. -/
  | extraValue (option value : String)
  | badValue (option kind value : String)
  | badChoice (option value : String) (choices : List String)
  /-- A word that has to be given is missing. -/
  | missing (name : String)
  | unrecognized (arguments : List String)
  deriving DecidableEq, Repr

/-- The problem in words. -/
def Problem.message : Problem → String
  | .ambiguous argument candidates =>
    "ambiguous option: " ++ argument ++ " could match " ++ String.intercalate ", " candidates
  | .noValue option => "argument " ++ option ++ ": expected one argument"
  | .extraValue option value =>
    "argument " ++ option ++ ": ignored explicit argument " ++ Text.quoted value
  | .badValue option kind value =>
    "argument " ++ option ++ ": invalid " ++ kind ++ " value: " ++ Text.quoted value
  | .badChoice option value choices =>
    "argument " ++ option ++ ": invalid choice: " ++ Text.quoted value ++ " (choose from "
      ++ Text.quotedList choices ++ ")"
  | .missing name => "the following arguments are required: " ++ name
  | .unrecognized arguments => "unrecognized arguments: " ++ String.intercalate " " arguments

/-- The name of an option in problems. -/
def Switch.title (s : Switch ι) : String := String.intercalate "/" s.names

/-- What stands behind the name of an option in the same argument. -/
inductive Attached where
  | nothing
  /-- A value behind an equals sign. -/
  | value (text : String)
  /-- Further characters behind a short name. -/
  | cluster (characters : List Char)

/-- What an argument is, seen by itself. -/
inductive Word (ι : Type) where
  | plain (text : String)
  /-- The two dashes behind which all is plain. -/
  | separator
  | option (s : Switch ι) (attached : Attached)
  /-- It looks like an option, but is none. -/
  | unknown (text : String)

/-- The two parts of an argument around its first equals sign. -/
def splitEquals (cs : List Char) : List Char × Option (List Char) :=
  match cs.dropWhile (· ≠ '=') with
  | '=' :: value => (cs.takeWhile (· ≠ '='), some value)
  | _ => (cs, none)

/-- The value behind an equals sign, if there is one. -/
def attachedOf : Option (List Char) → Attached
  | some value => .value (String.ofList value)
  | none => .nothing

/-- Each option with each of its names. -/
def namings (switches : List (Switch ι)) : List (String × Switch ι) :=
  switches.flatMap fun s => s.names.map fun name => (name, s)

/-- Whether the text is a minus and then digits, perhaps with a point before the last of them. A line
break at the end does not matter. -/
def looksNegative : List Char → Bool
  | '-' :: number =>
    let cs := if number.getLast? = some '\n' then number.dropLast else number
    let digits := cs.dropWhile Text.isDigit
    match digits with
    | [] => !cs.isEmpty
    | '.' :: places => !places.isEmpty && places.all Text.isDigit
    | _ => false
  | _ => false

/-- The options that an argument with dashes can mean, with the names that fit. -/
def candidates (switches : List (Switch ι)) (cs : List Char) :
    List (String × Switch ι × Attached) :=
  match cs with
  | '-' :: '-' :: _ =>
    let (name, value) := splitEquals cs
    (namings switches).filterMap fun (full, s) =>
      if name.isPrefixOf full.toList then some (full, s, attachedOf value) else none
  | '-' :: c :: rest =>
    (namings switches).filterMap fun (full, s) =>
      if full.toList = ['-', c] then some (full, s, .cluster rest)
      else if cs.isPrefixOf full.toList then some (full, s, .nothing)
      else none
  | _ => []

/-- What an argument that is not the two dashes is, seen by itself. -/
def Word.ofArgument (switches : List (Switch ι)) (argument : String) : Except Problem (Word ι) :=
  let cs := argument.toList
  let named (name : List Char) := (namings switches).lookup (String.ofList name)
  match cs with
  | '-' :: _ :: _ =>
    let (name, value) := splitEquals cs
    match named cs, value.bind fun _ => named name with
    | some s, _ => .ok (.option s .nothing)
    | none, some s => .ok (.option s (attachedOf value))
    | none, none =>
      match candidates switches cs with
      | [(_, s, attached)] => .ok (.option s attached)
      | [] => .ok (if looksNegative cs || cs.contains ' ' then .plain argument else .unknown argument)
      | several => .error (.ambiguous argument (several.map (·.1)))
  | _ => .ok (.plain argument)

/-- What the arguments are. All words behind the first two dashes are plain. -/
def Word.ofArguments (switches : List (Switch ι)) : List String → Except Problem (List (Word ι))
  | [] => .ok []
  | argument :: rest =>
    if argument = "--" then .ok (.separator :: rest.map .plain)
    else do
      let word ← Word.ofArgument switches argument
      return word :: (← Word.ofArguments switches rest)

/-- Something that is given by the arguments. -/
inductive Given (ι : Type) where
  | option (s : Switch ι) (value : Option String)
  /-- The plain word that the command takes. -/
  | plain (text : String)

/-- What is given, up to the first problem; without one the arguments that nobody takes are left. -/
structure Reading (ι : Type) where
  given : List (Given ι)
  rest : Except Problem (List String)

namespace Reading

/-- Nothing is given, and all is well. -/
def empty : Reading ι := ⟨[], .ok []⟩

/-- Nothing is given because of a problem. -/
def problem (p : Problem) : Reading ι := ⟨[], .error p⟩

/-- Something more is given before all else. -/
def give (g : Given ι) (r : Reading ι) : Reading ι := { r with given := g :: r.given }

/-- Nobody takes an argument before all others that are left. -/
def leave (argument : String) (r : Reading ι) : Reading ι := { r with rest := r.rest.map (argument :: ·) }

end Reading

/-- The options of a cluster of short names, of which the first is given, and what is no option of it. -/
def clusterOf (switches : List (Switch ι)) (s : Switch ι) :
    List Char → Except Problem (List (Given ι) × Option String)
  | [] => .ok ([.option s none], none)
  | '=' :: value => .error (.extraValue s.title (String.ofList value))
  | c :: rest =>
    if c = '-' then .error (.extraValue s.title (String.ofList (c :: rest)))
    else
      match (namings switches).lookup (String.ofList ['-', c]) with
      | none => .ok ([.option s none], some (String.ofList ('-' :: c :: rest)))
      | some next => do
        let (given, left) ← clusterOf switches next rest
        return (.option s none :: given, left)

/-- What the words give, when the plain word was taken or not. Two dashes next to the plain word that is
taken belong to it. -/
def collect (switches : List (Switch ι)) : Bool → List (Word ι) → Reading ι
  | _, [] => .empty
  | false, .plain text :: .separator :: rest => (collect switches true rest).give (.plain text)
  | false, .separator :: .plain text :: rest => (collect switches true rest).give (.plain text)
  | false, .plain text :: rest => (collect switches true rest).give (.plain text)
  | true, .plain text :: rest => (collect switches true rest).leave text
  | taken, .separator :: rest => (collect switches taken rest).leave "--"
  | taken, .unknown text :: rest => (collect switches taken rest).leave text
  | taken, .option s (.value text) :: rest =>
    if s.takesValue then (collect switches taken rest).give (.option s (some text))
    else .problem (.extraValue s.title text)
  | taken, .option s (.cluster characters) :: rest =>
    match clusterOf switches s characters with
    | .error p => .problem p
    | .ok (given, left) =>
      let others := collect switches taken rest
      given.foldr Reading.give (match left with | some text => others.leave text | none => others)
  | taken, .option s .nothing :: rest =>
    if s.takesValue then
      match rest with
      | .plain text :: rest => (collect switches taken rest).give (.option s (some text))
      | _ => .problem (.noValue s.title)
    else (collect switches taken rest).give (.option s none)

/-- What the arguments give to a command that takes one plain word. -/
def read (switches : List (Switch ι)) (arguments : List String) : Reading ι :=
  match Word.ofArguments switches arguments with
  | .error p => .problem p
  | .ok words => collect switches false words

end Chip8.CommandLine

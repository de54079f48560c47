import HolidayApi.Text.Split

/-! # Command lines

    The words of a command line are options with values and plain words. An
    option is written in its short or its long form, and its value behind it
    or, after an equals sign, in the same word; a short form may also have
    the value right behind it. No option may be given twice, a value in a
    word of its own must not look like an option, and after `--` all words
    are plain.
-/

namespace HolidayApi.CommandLine

/-- An option with a value. -/
structure OptionForm where
  /-- The letter of the short form. -/
  short : Char
  /-- The name of the long form. -/
  long : String
  /-- Whether the value may be empty. -/
  mayBeEmpty : Bool
  deriving DecidableEq, Repr

/-- What was read of a command line. -/
structure Reading where
  /-- The values of options by their long names. -/
  values : List (String × String) := []
  /-- The plain words. -/
  words : List String := []
  deriving DecidableEq, Repr

/-- Why a command line is not carried out. -/
inductive Stopped where
  /-- It is used in a wrong way. -/
  | wrong
  /-- Help is asked for. -/
  | help
  deriving DecidableEq, Repr

namespace Reading

/-- The value of an option. -/
def value? (r : Reading) (long : String) : Option String := r.values.lookup long

/-- Takes the value of an option. -/
def take (r : Reading) (form : OptionForm) (value : String) : Except Stopped Reading :=
  if (r.value? form.long).isSome || (value.isEmpty && !form.mayBeEmpty) then .error .wrong
  else .ok { r with values := r.values ++ [(form.long, value)] }

end Reading

/-- Whether a word looks like an option. -/
def looksLikeOption (word : String) : Bool := word ≠ "-" && word.toList.head? = some '-'

/-- An option whose value is in the same word, or has to be the next word. -/
inductive Found where
  | help
  | attached (form : OptionForm) (value : String)
  | separate (form : OptionForm)

/-- The option that a long form denotes, after its hyphens. -/
def long? (forms : List OptionForm) (cs : List Char) : Option Found :=
  let (name, value) := match Text.cutAt '=' cs with
    | some (name, value) => (name, some (String.ofList value))
    | none => (cs, none)
  if name = "help".toList then if value.isSome then none else some .help
  else
    match forms.find? fun form => form.long.toList == name, value with
    | none, _ => none
    | some form, some value => some (.attached form value)
    | some form, none => some (.separate form)

/-- The option that a short form denotes, after its hyphen. -/
def short? (forms : List OptionForm) : List Char → Option Found
  | [] => none
  | c :: rest =>
    if c = 'h' then some .help
    else
      match forms.find? fun form => form.short == c, rest with
      | none, _ => none
      | some form, [] => some (.separate form)
      | some form, '=' :: value => some (.attached form (String.ofList value))
      | some form, value => some (.attached form (String.ofList value))

/-- The option that a word denotes. -/
def option? (forms : List OptionForm) (word : String) : Option Found :=
  match word.toList with
  | '-' :: '-' :: rest => long? forms rest
  | '-' :: rest => short? forms rest
  | _ => none

/-- Reads the words of a command line. At most `room` plain words are taken;
    where there is no such bound, the reading ends at the first plain word,
    and it and the words after it are given back. -/
def scan (forms : List OptionForm) (room : Option Nat) (r : Reading) :
    List String → Except Stopped (Reading × List String)
  | [] => .ok (r, [])
  | "--" :: rest =>
    let r := { r with words := r.words ++ rest }
    if room.getD 0 < r.words.length then .error .wrong else .ok (r, [])
  | word :: rest =>
    if looksLikeOption word then
      match option? forms word, rest with
      | none, _ => .error .wrong
      | some .help, _ => .error .help
      | some (.attached form value), rest =>
        match r.take form value with
        | .ok r => scan forms room r rest
        | .error e => .error e
      | some (.separate _), [] => .error .wrong
      | some (.separate form), value :: rest =>
        if looksLikeOption value then .error .wrong
        else
          match r.take form value with
          | .ok r => scan forms room r rest
          | .error e => .error e
    else
      match room with
      | none => .ok (r, word :: rest)
      | some n =>
        if r.words.length < n then scan forms room { r with words := r.words ++ [word] } rest
        else .error .wrong

end HolidayApi.CommandLine

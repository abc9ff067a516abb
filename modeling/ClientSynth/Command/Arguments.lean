/-!
# Arguments of a command

Options start with two dashes and a word, or with one dash and letters; a value follows its option
as the next argument, after an equals sign, or right after the letter. A single dash is no option,
and after two dashes alone there are none.
-/

namespace ClientSynth

/-- An option that a command knows. -/
structure CommandOption where
  /-- The word after two dashes. -/
  word : String
  /-- The letter after one dash. -/
  letter : Option Char
  hasValue : Bool

/-- The options that were given, in order, and the other arguments. -/
structure Arguments where
  options : List (String × String)
  others : List String

namespace Arguments

/-- What an argument that holds options gives, and the option whose value is the next argument. -/
structure Reading where
  given : List (String × String)
  waiting : Option String

/-- The options of letters. -/
def readLetters (known : List CommandOption) : List Char → Option Reading
  | [] => some ⟨[], none⟩
  | c :: rest => do
    let option ← known.find? fun o => o.letter == some c
    if option.hasValue then
      some (if rest.isEmpty then ⟨[], some option.word⟩
        else ⟨[(option.word, String.ofList rest)], none⟩)
    else
      let later ← readLetters known rest
      some { later with given := (option.word, "") :: later.given }

/-- The option of a word, with a value after an equals sign. -/
def readWord (known : List CommandOption) (text : List Char) : Option Reading := do
  let word := String.ofList (text.takeWhile (· != '='))
  let option ← known.find? fun o => o.word == word
  match text.dropWhile (· != '=') with
  | [] => some (if option.hasValue then ⟨[], some word⟩ else ⟨[(word, "")], none⟩)
  | _ :: value => if option.hasValue then some ⟨[(word, String.ofList value)], none⟩ else none

/-- What an argument gives that holds options, or `none` for an unknown option; the outer `none` is
for an argument of another kind. -/
def readOption (known : List CommandOption) (argument : String) : Option (Option Reading) :=
  match argument.toList with
  | '-' :: '-' :: word => some (readWord known word)
  | '-' :: letter :: letters => some (readLetters known (letter :: letters))
  | _ => none

/-- Reads the arguments of a command. Options may stand among the other arguments, or only before
them. There are none to read when an option is unknown or lacks its value. -/
def read? (known : List CommandOption) (isMixed : Bool) : List String → Option Arguments
  | [] => some ⟨[], []⟩
  | "--" :: rest => some ⟨[], rest⟩
  | argument :: rest =>
    match readOption known argument with
    | none =>
      if isMixed then
        (read? known isMixed rest).map fun a => { a with others := argument :: a.others }
      else some ⟨[], argument :: rest⟩
    | some none => none
    | some (some ⟨given, none⟩) =>
      (read? known isMixed rest).map fun a => { a with options := given ++ a.options }
    | some (some ⟨given, some word⟩) =>
      match rest with
      | [] => none
      | value :: rest =>
        (read? known isMixed rest).map fun a =>
          { a with options := given ++ (word, value) :: a.options }

/-- Whether an option was given. -/
def has (a : Arguments) (word : String) : Bool :=
  a.options.any fun o => o.1 == word

/-- The last value that was given for an option. -/
def value? (a : Arguments) (word : String) : Option String :=
  (a.options.reverse.find? fun o => o.1 == word).map Prod.snd

end Arguments

end ClientSynth

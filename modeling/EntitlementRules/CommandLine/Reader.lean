import EntitlementRules.CommandLine.Parameter

/-! The parts of a command line: what each scope is given, and why a command line is not carried out. -/
namespace EntitlementRules.CommandLine

/-- What is wrong with a command line. -/
inductive Fault where
  | unknown (word : String)
  | missingValue (parameter : Parameter)
  | unneededValue (parameter : Parameter)
  | unacceptable (parameter : Parameter) (text : String)
  | repeated (parameter : Parameter)
  | missingCommand
  | missingFile
  deriving Repr, DecidableEq

/-- Why no command is carried out. -/
inductive Stop where
  /-- Help on a scope is asked for. -/
  | help (scope : Scope)
  /-- The program's own version is asked for. -/
  | release
  | refusal (fault : Fault)
  deriving Repr, DecidableEq

/-- What a scope is given. -/
structure Part where
  scope : Scope
  values : List (Parameter × String) := []
  /-- A parameter that takes the next word as its value, with that word once it came. The value is looked at
  when the next parameter or the end comes. -/
  waiting : Option (Parameter × Option String) := none
  file : Option String := none
  deriving Repr, DecidableEq

namespace Part

/-- Whether the next word is the value of a parameter. -/
def awaitsValue (part : Part) : Bool :=
  match part.waiting with
  | some (_, none) => true
  | _ => false

/-- The part with the value of a parameter. No parameter has two. -/
def put (part : Part) (parameter : Parameter) (text : String) : Except Stop Part :=
  if parameter = .help then .error (.help part.scope)
  else if parameter = .release then .error .release
  else if part.values.any (·.1 == parameter) then .error (.refusal (.repeated parameter))
  else if parameter.accepts text then .ok { part with values := part.values ++ [(parameter, text)] }
  else .error (.refusal (.unacceptable parameter text))

/-- Looks at the value that waits. -/
def settle (part : Part) : Except Stop Part :=
  match part.waiting with
  | none => .ok part
  | some (parameter, none) => .error (.refusal (.missingValue parameter))
  | some (parameter, some text) => put { part with waiting := none } parameter text

/-- Takes a parameter, with the text attached to it if there is one. -/
def take (part : Part) (parameter : Parameter) (attached : Option String) : Except Stop Part := do
  let part ← part.settle
  match parameter.form, attached with
  | .switch, none => part.put parameter "true"
  | .switch, some _ => throw (.refusal (.unneededValue parameter))
  | .attached, text => part.put parameter (text.getD "true")
  | .value, some text => part.put parameter text
  | .value, none => return { part with waiting := some (parameter, none) }

def takeNamed (part : Part) (name : String) (attached : Option String) : Except Stop Part :=
  match part.scope.named? name with
  | some parameter => part.take parameter attached
  | none => .error (.refusal (.unknown ("--" ++ name)))

/-- The text that follows a letter in its word, perhaps after an equals sign. -/
def attachedTo : List Char → Option String
  | [] => none
  | '=' :: rest => some (String.ofList rest)
  | rest => some (String.ofList rest)

/-- Takes the parameters of letters. The first that has a value takes the other letters for it. -/
def takeLetters (part : Part) : List Char → Except Stop Part
  | [] => .ok part
  | letter :: rest =>
    match part.scope.lettered? letter with
    | none => .error (.refusal (.unknown (String.ofList ['-', letter])))
    | some parameter =>
      if parameter.form = .switch then do takeLetters (← part.take parameter none) rest
      else part.take parameter (attachedTo rest)

def takeFile (part : Part) (word : String) : Except Stop Part := do
  let part ← part.settle
  if part.scope.takesFile && part.file.isNone then
    if word = "" then throw (.refusal .missingFile) else return { part with file := some word }
  else throw (.refusal (.unknown word))

/-- Takes a word that is no parameter: a value, or the name of a file. -/
def takePlain (part : Part) (word : String) : Except Stop Part :=
  match part.waiting with
  | some (parameter, none) => .ok { part with waiting := some (parameter, some word) }
  | _ => part.takeFile word

end Part

/-- What the dashes in front of a word make of it. -/
inductive Word where
  /-- All words that follow are plain. -/
  | escape
  | named (name : String) (attached : Option String)
  | letters (letters : List Char)
  | plain
  deriving Repr, DecidableEq

def Word.ofText (text : String) : Word :=
  match text.toList with
  | ['-', '-'] => escape
  | '-' :: '-' :: rest =>
    match rest.span (· != '=') with
    | (name, _ :: attached) => named (String.ofList name) (some (String.ofList attached))
    | (name, []) => named (String.ofList name) none
  | '-' :: letter :: rest => letters (letter :: rest)
  | _ => plain

/-- Where the words after a command's name `help` lead. -/
def helpOn : (scope : Scope) → (words : List String) → Stop
  | scope, [] => .help scope
  | scope, word :: rest =>
    match scope.command? word with
    | some inner => helpOn inner rest
    | none =>
      if word = "help" ∧ scope.commands ≠ [] ∧ rest = [] then .help scope
      else .refusal (.unknown word)

/-- Reads the words that follow a part's first ones. The parts come back from the innermost to the
outermost. -/
def readWords : (part : Part) → (outer : List Part) → (escaped : Bool) → List String →
    Except Stop (List Part)
  | part, outer, _, [] => .ok (part :: outer)
  | part, outer, true, word :: rest => do readWords (← part.takeFile word) outer true rest
  | part, outer, false, word :: rest =>
    match if part.awaitsValue then none else part.scope.command? word with
    | some inner => readWords { scope := inner } (part :: outer) false rest
    | none =>
      if !part.awaitsValue && word == "help" && !part.scope.commands.isEmpty then
        .error (helpOn part.scope rest)
      else
        match Word.ofText word with
        | .escape => readWords part outer true rest
        | .named name attached => do readWords (← part.takeNamed name attached) outer false rest
        | .letters letters => do readWords (← part.takeLetters letters) outer false rest
        | .plain => do readWords (← part.takePlain word) outer false rest

/-- Whether the environment has a text that a parameter of a part does not take. -/
def Part.findUnacceptable? (environment : String → Option String) (part : Part) :
    Option (Parameter × String) :=
  part.scope.parameters.findSome? fun parameter => do
    let text ← parameter.environmentName?.bind environment
    if part.values.any (·.1 == parameter) || parameter.accepts text then none
    else some (parameter, text)

/-- Ends a part. The environment must be acceptable for each parameter that the part lacks. -/
def Part.close (environment : String → Option String) (part : Part) : Except Stop Part := do
  let part ← part.settle
  match part.findUnacceptable? environment with
  | some (parameter, text) => throw (.refusal (.unacceptable parameter text))
  | none => return part

/-- The parts of a command line, from the innermost to the outermost. -/
def parts (environment : String → Option String) (words : List String) :
    Except Stop (List Part) := do
  (← readWords { scope := .program } [] false words).mapM (Part.close environment)

end EntitlementRules.CommandLine

import KeywordLang.Compile

/-!
The arguments of the command line.

Arguments are taken from left to right. The first one that is out of order ends
the reading, and so does a request for help or for the version.
-/

namespace KeywordLang.Command

/-- What a run of the compiler is asked to do. -/
structure Options where
  input : String
  /-- The file for the code, which otherwise goes to the standard output. -/
  output : Option String := none
  /-- The file that describes the dialect. -/
  dialect : Option String := none
  mode : Mode := .module
  verbose : Bool := false
deriving DecidableEq, Repr

/-- The options that take a value. -/
inductive Slot where
  | output
  | dialect
  | mode
deriving DecidableEq, Repr

/-- The options that take none. -/
inductive Switch where
  | verbose
  | version
  | help
deriving DecidableEq, Repr

/-- How arguments are out of order. -/
inductive UsageError where
  | unknownOption (argument : String)
  | extraInput (argument : String)
  | missingInput
  | missingValue
  | emptyValue
  | unexpectedValue (argument : String)
  | repeatedOption
  | unknownMode (value : String)
deriving DecidableEq, Repr

def UsageError.message : UsageError → String
  | .unknownOption argument => "unknown option '" ++ argument ++ "'"
  | .extraInput argument => "unexpected argument '" ++ argument ++ "'"
  | .missingInput => "the source is missing"
  | .missingValue => "an option lacks its value"
  | .emptyValue => "a value is empty"
  | .unexpectedValue argument => "'" ++ argument ++ "' takes no value"
  | .repeatedOption => "an option is given twice"
  | .unknownMode value => "unknown mode '" ++ value ++ "'"

/-- Why there is nothing to compile. -/
inductive Stop where
  | usage (error : UsageError)
  | version
  | help
deriving DecidableEq, Repr

/-- The arguments taken so far. -/
structure Draft where
  input : Option String := none
  output : Option String := none
  dialect : Option String := none
  mode : Option Mode := none
  verbose : Bool := false
  /-- The option whose value has to follow. -/
  pending : Option Slot := none
  /-- Only sources follow. -/
  closed : Bool := false
deriving DecidableEq, Repr

def longOption? : String → Option (Slot ⊕ Switch)
  | "output" => some (.inl .output)
  | "config" => some (.inl .dialect)
  | "mode" => some (.inl .mode)
  | "verbose" => some (.inr .verbose)
  | "version" => some (.inr .version)
  | "help" => some (.inr .help)
  | _ => none

def shortOption? : Char → Option (Slot ⊕ Switch)
  | 'o' => some (.inl .output)
  | 'c' => some (.inl .dialect)
  | 'm' => some (.inl .mode)
  | 'v' => some (.inr .verbose)
  | 'V' => some (.inr .version)
  | 'h' => some (.inr .help)
  | _ => none

/-- The mode of a name, which is spelled exactly so. -/
def modeOf? : String → Option Mode
  | "module" => some .module
  | "expression" => some .expression
  | _ => none

namespace Draft

/-- Fills a place that is to be filled once. -/
def fill {α : Type} (current : Option α) (value : α) : Except Stop (Option α) :=
  if current.isSome then .error (.usage .repeatedOption) else .ok (some value)

def setSlot (draft : Draft) (slot : Slot) (value : String) : Except Stop Draft := do
  if value = "" then .error (.usage .emptyValue)
  else
    let draft := { draft with pending := none }
    match slot with
    | .output => return { draft with output := ← fill draft.output value }
    | .dialect => return { draft with dialect := ← fill draft.dialect value }
    | .mode =>
        match modeOf? value with
        | some mode => return { draft with mode := ← fill draft.mode mode }
        | none => .error (.usage (.unknownMode value))

def setSwitch (draft : Draft) : Switch → Except Stop Draft
  | .version => .error .version
  | .help => .error .help
  | .verbose =>
      if draft.verbose then .error (.usage .repeatedOption)
      else .ok { draft with verbose := true }

def setInput (draft : Draft) (value : String) : Except Stop Draft :=
  if draft.input.isSome then .error (.usage (.extraInput value))
  else if value = "" then .error (.usage .emptyValue)
  else .ok { draft with input := some value }

/-- Takes a long option, whose value may be attached by an equals sign. -/
def long (draft : Draft) (body : List Char) : Except Stop Draft :=
  let argument := "--" ++ String.ofList body
  let name := String.ofList (body.takeWhile (· ≠ '='))
  match longOption? name, body.dropWhile (· ≠ '=') with
  | none, _ => .error (.usage (.unknownOption argument))
  | some (.inl slot), [] => .ok { draft with pending := some slot }
  | some (.inl slot), _ :: value => draft.setSlot slot (String.ofList value)
  | some (.inr switch), [] => draft.setSwitch switch
  | some (.inr _), _ :: _ => .error (.usage (.unexpectedValue argument))

/-- Takes short options that are written together. The first one with a value
takes the rest of them for it, if there is any, with or without an equals sign. -/
def short (draft : Draft) : List Char → Except Stop Draft
  | [] => .ok draft
  | name :: rest =>
      match shortOption? name, rest with
      | none, _ => .error (.usage (.unknownOption (String.ofList ['-', name])))
      | some (.inr switch), rest => do short (← draft.setSwitch switch) rest
      | some (.inl slot), [] => .ok { draft with pending := some slot }
      | some (.inl slot), '=' :: value => draft.setSlot slot (String.ofList value)
      | some (.inl slot), value => draft.setSlot slot (String.ofList value)

def take (draft : Draft) (argument : String) : Except Stop Draft :=
  match draft.closed, draft.pending, argument.toList with
  | true, _, _ => draft.setInput argument
  | false, some slot, ['-'] => draft.setSlot slot argument
  | false, some _, '-' :: _ => .error (.usage .missingValue)
  | false, some slot, _ => draft.setSlot slot argument
  | false, none, ['-', '-'] => .ok { draft with closed := true }
  | false, none, '-' :: '-' :: body => draft.long body
  | false, none, '-' :: c :: names => draft.short (c :: names)
  | false, none, _ => draft.setInput argument

/-- The options, once all arguments have been taken. -/
def finish (draft : Draft) : Except Stop Options :=
  match draft.pending, draft.input with
  | some _, _ => .error (.usage .missingValue)
  | none, none => .error (.usage .missingInput)
  | none, some input =>
      .ok {
        input
        output := draft.output
        dialect := draft.dialect
        mode := draft.mode.getD .module
        verbose := draft.verbose }

end Draft

def Options.parse (arguments : List String) : Except Stop Options := do
  let draft ← arguments.foldlM Draft.take {}
  draft.finish

end KeywordLang.Command

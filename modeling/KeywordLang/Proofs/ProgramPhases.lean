import KeywordLang.Proofs.ProgramGrammar
import Mathlib.Logic.Basic

namespace KeywordLang

theorem Mark.eq_text_of_ofWord? {word : String} {m : Mark} (h : Mark.ofWord? word = some m) :
    word = m.text := by
  unfold Mark.ofWord? at h
  split at h <;> cases h <;> rfl

theorem Mark.isWord_text (m : Mark) : isWord m.text = false := by
  cases m <;> decide +kernel

theorem Keywords.Distinct.mark_ne {k : Keywords} (hk : k.Distinct) {word : String}
    (hword : word ∈ k.toList) (m : Mark) : m.text ≠ word := by
  rintro rfl
  exact Bool.false_ne_true (m.isWord_text.symm.trans (hk.words _ hword))

namespace Program

/-- All the ways in which a lexeme can lead on from a phase. -/
inductive Phase.Leads (k : Keywords) : Phase → Lexeme → Phase → Option Action → Prop where
  | endOfInput (text : String) : Leads k .root ⟨.endOfInput, text⟩ .root none
  | beginModule {text : String} (h : Text.upper text = k.module) :
      Leads k .root ⟨.operator, text⟩ .moduleName none
  | nameModule (text : String) :
      Leads k .moduleName ⟨.name, text⟩ .inModule (some (.openModule (Text.upper text)))
  | firstFunction {text : String} (h : Text.upper text = k.function) :
      Leads k .inModule ⟨.operator, text⟩ .functionName none
  | noFunction {text : String} (h : Text.upper text = k.start) :
      Leads k .inModule ⟨.operator, text⟩ .moduleEnd none
  | nameFunction (text : String) :
      Leads k .functionName ⟨.name, text⟩ .parametersOpen
        (some (.openFunction (Text.upper text)))
  | openParameters {text : String} (h : Text.upper text = Mark.openParen.text) :
      Leads k .parametersOpen ⟨.operator, text⟩ .firstParameter
        (some (.mark .openParen))
  | firstParameter (text : String) :
      Leads k .firstParameter ⟨.name, text⟩ .afterParameter
        (some (.parameter (Text.upper text)))
  | nextParameter (text : String) :
      Leads k .nextParameter ⟨.name, text⟩ .afterParameter
        (some (.parameter (Text.upper text)))
  | separator {text : String} (h : Text.upper text = Mark.comma.text) :
      Leads k .afterParameter ⟨.operator, text⟩ .nextParameter (some (.mark .comma))
  | noParameters {text : String} (h : Text.upper text = Mark.closeParen.text) :
      Leads k .firstParameter ⟨.operator, text⟩ .assignment (some (.mark .closeParen))
  | closeParameters {text : String} (h : Text.upper text = Mark.closeParen.text) :
      Leads k .afterParameter ⟨.operator, text⟩ .assignment (some (.mark .closeParen))
  | assign {text : String} (h : Text.upper text = "=") :
      Leads k .assignment ⟨.operator, text⟩ .body (some .assign)
  | number (text : String) : Leads k .body ⟨.number, text⟩ .body (some (.number text))
  | text (literal : String) : Leads k .body ⟨.text, literal⟩ .body (some (.text literal))
  | name (text : String) :
      Leads k .body ⟨.name, text⟩ .body (some (.symbol (Text.upper text)))
  | selfReference {text : String} (h : Text.upper text = k.selfRef) :
      Leads k .body ⟨.operator, text⟩ .body (some .selfReference)
  | mark {text : String} {m : Mark} (h : Text.upper text = m.text) :
      Leads k .body ⟨.operator, text⟩ .body (some (.mark m))
  | nextFunction {text : String} (h : Text.upper text = k.function) :
      Leads k .body ⟨.operator, text⟩ .functionName (some .closeFunction)
  | lastFunction {text : String} (h : Text.upper text = k.start) :
      Leads k .body ⟨.operator, text⟩ .moduleEnd (some .closeFunction)
  | endModule (text : String) :
      Leads k .moduleEnd ⟨.name, text⟩ .root (some (.closeModule (Text.upper text)))

theorem Phase.leads_of_bodyOperator? {k : Keywords} {text : String} {next : Phase}
    {action : Action} (h : Phase.bodyOperator? k (Text.upper text) = some (next, action)) :
    Phase.Leads k .body ⟨.operator, text⟩ next (some action) := by
  rcases ite_eq_iff.mp h with ⟨hword, h⟩ | ⟨-, h⟩
  · cases h
    exact .nextFunction hword
  · rcases ite_eq_iff.mp h with ⟨hword, h⟩ | ⟨-, h⟩
    · cases h
      exact .lastFunction hword
    · rcases ite_eq_iff.mp h with ⟨hword, h⟩ | ⟨-, h⟩
      · cases h
        exact .selfReference hword
      · obtain ⟨m, hm, h⟩ := Option.map_eq_some_iff.mp h
        cases h
        exact .mark (Mark.eq_text_of_ofWord? hm)

theorem Phase.leads_of_next? {k : Keywords} {phase next : Phase} {x : Lexeme}
    {action : Option Action} (h : phase.next? k x = some (next, action)) :
    Phase.Leads k phase x next action := by
  obtain ⟨kind, text⟩ := x
  cases phase with
  | root =>
      cases kind with
      | endOfInput => cases h; exact .endOfInput text
      | operator =>
          obtain ⟨hword, h⟩ := Option.ite_none_right_eq_some.mp h
          cases h
          exact .beginModule hword
      | _ => cases h
  | moduleName =>
      cases kind with
      | name => cases h; exact .nameModule text
      | _ => cases h
  | inModule =>
      cases kind with
      | operator =>
          rcases ite_eq_iff.mp h with ⟨hword, h⟩ | ⟨-, h⟩
          · cases h
            exact .firstFunction hword
          · obtain ⟨hword, h⟩ := Option.ite_none_right_eq_some.mp h
            cases h
            exact .noFunction hword
      | _ => cases h
  | functionName =>
      cases kind with
      | name => cases h; exact .nameFunction text
      | _ => cases h
  | parametersOpen =>
      cases kind with
      | operator =>
          obtain ⟨hword, h⟩ := Option.ite_none_right_eq_some.mp h
          cases h
          exact .openParameters hword
      | _ => cases h
  | firstParameter =>
      cases kind with
      | name => cases h; exact .firstParameter text
      | operator =>
          obtain ⟨hword, h⟩ := Option.ite_none_right_eq_some.mp h
          cases h
          exact .noParameters hword
      | _ => cases h
  | afterParameter =>
      cases kind with
      | operator =>
          rcases ite_eq_iff.mp h with ⟨hword, h⟩ | ⟨-, h⟩
          · cases h
            exact .closeParameters hword
          · obtain ⟨hword, h⟩ := Option.ite_none_right_eq_some.mp h
            cases h
            exact .separator hword
      | _ => cases h
  | nextParameter =>
      cases kind with
      | name => cases h; exact .nextParameter text
      | _ => cases h
  | assignment =>
      cases kind with
      | operator =>
          obtain ⟨hword, h⟩ := Option.ite_none_right_eq_some.mp h
          cases h
          exact .assign hword
      | _ => cases h
  | body =>
      cases kind with
      | operator =>
          obtain ⟨⟨next, action⟩, hbody, h⟩ := Option.map_eq_some_iff.mp h
          cases h
          exact Phase.leads_of_bodyOperator? hbody
      | number => cases h; exact .number text
      | text => cases h; exact .text text
      | name => cases h; exact .name text
      | _ => cases h
  | moduleEnd =>
      cases kind with
      | name => cases h; exact .endModule text
      | _ => cases h

theorem Phase.Leads.next? {k : Keywords} (hk : k.Distinct) {phase next : Phase} {x : Lexeme}
    {action : Option Action} (h : Phase.Leads k phase x next action) :
    phase.next? k x = some (next, action) := by
  have hnodup := hk.nodup
  simp only [Keywords.toList, List.nodup_cons, List.mem_cons, not_or] at hnodup
  obtain ⟨-, ⟨hfs, hfr, -⟩, ⟨hsr, -⟩, -⟩ := hnodup
  cases h with
  | selfReference hword =>
      simp [Phase.next?, bodyOperator?, Lexeme.word, hword, Ne.symm hfr, Ne.symm hsr]
  | @mark text m hword =>
      have hf : m.text ≠ k.function := hk.mark_ne (by simp [Keywords.toList]) m
      have hs : m.text ≠ k.start := hk.mark_ne (by simp [Keywords.toList]) m
      have hr : m.text ≠ k.selfRef := hk.mark_ne (by simp [Keywords.toList]) m
      simp [Phase.next?, bodyOperator?, Lexeme.word, hword, hf, hs, hr, Mark.ofWord?_text]
  | noFunction hword => simp [Phase.next?, Lexeme.word, hword, Ne.symm hfs]
  | lastFunction hword =>
      simp [Phase.next?, bodyOperator?, Lexeme.word, hword, Ne.symm hfs]
  | nextFunction hword => simp [Phase.next?, bodyOperator?, Lexeme.word, hword]
  | separator hword => simp [Phase.next?, Lexeme.word, hword, Mark.text]
  | closeParameters hword => simp [Phase.next?, Lexeme.word, hword, Mark.text]
  | noParameters hword => simp [Phase.next?, Lexeme.word, hword, Mark.text]
  | openParameters hword => simp [Phase.next?, Lexeme.word, hword, Mark.text]
  | assign hword => simp [Phase.next?, Lexeme.word, hword]
  | beginModule hword => simp [Phase.next?, Lexeme.word, hword]
  | firstFunction hword => simp [Phase.next?, Lexeme.word, hword]
  | _ => rfl

end Program

end KeywordLang

import Mathlib.Data.List.TakeWhile
import RaceLink.Race.Command

/-!
# The texts of commands

On the wire every command has a text of its own, so that what was sent tells which command it was.

* `Command.text_injective` — no two commands have the same text: the name ends at the first quote,
  and after it only the parameter differs.
-/

set_option autoImplicit false

namespace RaceLink

/-- No two numbers have the same digits. -/
theorem Json.decimalDigits_injective : Function.Injective Json.decimalDigits := by
  intro m n h
  have hvalue := congrArg (Nat.ofDigitChars 10 · 0) h
  simpa [Json.decimalDigits] using hvalue

namespace Command

/-- What stands before the name of a command. -/
def beforeName : List Char := '\x7b' :: Json.quotedChars tag ++ [':', '"']

/-- What stands behind the name of a command and its closing quote. -/
def behindName (c : Command) : List Char :=
  match c.parameter with
  | [] => ['\x7d']
  | m :: ms => ',' :: Json.memberChars (m :: ms)

/-- Nothing in the name of a command has to be escaped. -/
theorem quotedChars_name (c : Command) :
    Json.quotedChars c.name = '"' :: (c.name.toList ++ ['"']) := by
  cases c <;> simp [name, Json.quotedChars, Json.escaped]

/-- The name of a command holds no quote. -/
theorem quote_notMem_name (c : Command) : '"' ∉ c.name.toList := by
  cases c <;> simp [name]

/-- The text of a command is its name between two parts that hold no other name. -/
theorem toList_text (c : Command) :
    c.text.toList = beforeName ++ (c.name.toList ++ '"' :: c.behindName) := by
  rw [text, Json.render, String.toList_ofList, toJson, behindName, beforeName]
  cases c.parameter <;> simp [Json.chars, Json.memberChars, quotedChars_name]

/-- The name of a command can be read off its text. -/
theorem name_eq_of_text {c d : Command} (h : c.text = d.text) :
    c.name = d.name ∧ c.behindName = d.behindName := by
  have hlist := congrArg String.toList h
  rw [toList_text, toList_text, List.append_cancel_left_eq] at hlist
  have hbefore : ∀ b : Command,
      (b.name.toList ++ '"' :: b.behindName).takeWhile (· ≠ '"') = b.name.toList := by
    intro b
    have hall : ∀ x ∈ b.name.toList, decide (x ≠ '"') = true := fun x hx =>
      decide_eq_true fun he => b.quote_notMem_name (he ▸ hx)
    rw [List.takeWhile_append_of_pos hall]
    simp
  have hname : c.name = d.name := String.toList_inj.1 (by rw [← hbefore c, hlist, hbefore d])
  rw [hname, List.append_cancel_left_eq] at hlist
  exact ⟨hname, (List.cons.inj hlist).2⟩

/-- Commands of one name differ in their parameter at most. -/
theorem eq_of_name {c d : Command} (h : c.name = d.name) :
    c = d ∨ (∃ f g, c = setFrequency f ∧ d = setFrequency g) ∨
      ∃ t u, c = setThreshold t ∧ d = setThreshold u := by
  cases c <;> cases d <;> simp_all [name]

/-- No two commands have the same text. -/
theorem text_injective : Function.Injective text := by
  intro c d h
  obtain ⟨hname, hbehind⟩ := name_eq_of_text h
  rcases eq_of_name hname with he | ⟨f, g, rfl, rfl⟩ | ⟨t, u, rfl, rfl⟩
  · exact he
  · have hdigits : Json.decimalDigits f.toNat = Json.decimalDigits g.toNat := by
      simpa [behindName, parameter, Json.memberChars, Json.chars, Json.numberChars] using hbehind
    rw [UInt16.toNat_inj.1 (Json.decimalDigits_injective hdigits)]
  · have hdigits : Json.decimalDigits t.toNat = Json.decimalDigits u.toNat := by
      simpa [behindName, parameter, Json.memberChars, Json.chars, Json.numberChars] using hbehind
    rw [UInt8.toNat_inj.1 (Json.decimalDigits_injective hdigits)]

end Command
end RaceLink

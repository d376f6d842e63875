import ReporterBlocks.Block.Row
import ReporterBlocks.Proofs.Definition.SafeName

/-! # Handler names do not collide

The name of a handler is put together from a word for what the block does, the
safe name of the reporter, and for a block that reads a parameter the number of the
parameter.  `HandlerForm` keeps these parts apart, and `HandlerForm.text_injective`
says that the name gives them back.

The words begin with five different letters.  What is left to show is that the
number can be told from the name before it, although that name may itself end in an
underscore and digits: no digit is an underscore, so the number begins behind the
last one (`split_at_last`), and a decimal numeral determines its number
(`toDigits_injective`).
-/

namespace ReporterBlocks

/-- **The last underscore splits a text in one way.** -/
theorem split_at_last {l l' m m' : List Char} (hm : '_' ∉ m) (hm' : '_' ∉ m')
    (h : l ++ '_' :: m = l' ++ '_' :: m') : l = l' ∧ m = m' := by
  induction l generalizing l' with
  | nil =>
    cases l' with
    | nil => exact ⟨rfl, List.tail_eq_of_cons_eq h⟩
    | cons c l' =>
      have hin : '_' ∈ m := by
        rw [List.tail_eq_of_cons_eq h]
        exact List.mem_append_right l' List.mem_cons_self
      exact absurd hin hm
  | cons c l ih =>
    cases l' with
    | nil =>
      have hin : '_' ∈ m' := by
        rw [← List.tail_eq_of_cons_eq h]
        exact List.mem_append_right l List.mem_cons_self
      exact absurd hin hm'
    | cons c' l' =>
      obtain ⟨hl, hm⟩ := ih (List.tail_eq_of_cons_eq h)
      exact ⟨by rw [List.head_eq_of_cons_eq h, hl], hm⟩

/-- What a handler's name is made of. -/
inductive HandlerForm where
  | reload
  | poll (name : String)
  | call (name : String)
  | answer (name : String)
  | read (name : String) (index : Nat)

namespace HandlerForm

/-- The name of the handler. -/
def text : HandlerForm → String
  | reload => HandlerName.reload
  | poll name => HandlerName.poll name
  | call name => HandlerName.call name
  | answer name => HandlerName.answer name
  | read name index => HandlerName.read name index

/-- A parameter's handler gives back the reporter and the number. -/
theorem read_inj {a b : String} {i j : Nat}
    (h : HandlerName.read a i = HandlerName.read b j) : a = b ∧ i = j := by
  have hlist := congrArg String.toList h
  simp only [HandlerName.read, String.toList_append, Nat.toString_eq_ofList_toDigits,
    String.toList_ofList, List.append_assoc, List.append_cancel_left_eq] at hlist
  obtain ⟨hname, hdigits⟩ := split_at_last Nat.underscore_not_in_toDigits
    Nat.underscore_not_in_toDigits hlist
  exact ⟨String.toList_injective hname, toDigits_injective hdigits⟩

/-- The letter that a handler's name begins with tells what its block does. -/
def letter : HandlerForm → Char
  | reload => 'p'
  | poll _ => 'd'
  | call _ => 'c'
  | answer _ => 'r'
  | read _ _ => 'a'

theorem head?_text (f : HandlerForm) : f.text.toList.head? = some f.letter := by
  cases f <;> simp [text, letter, HandlerName.reload, HandlerName.poll, HandlerName.call,
    HandlerName.answer, HandlerName.read]

theorem letter_eq_of_text_eq {f g : HandlerForm} (h : f.text = g.text) :
    f.letter = g.letter :=
  Option.some.inj (by rw [← head?_text, ← head?_text, h])

/-- **A handler's name determines what it is made of.** -/
theorem text_injective : Function.Injective text := by
  intro f g h
  have hletter := letter_eq_of_text_eq h
  -- names of one word differ in what follows it, names of two in the first letter
  cases f with
  | reload =>
    cases g with
    | reload => rfl
    | _ => exact absurd hletter (by simp [letter])
  | poll a =>
    cases g with
    | poll b => exact congrArg poll ((String.append_right_inj _).mp h)
    | _ => exact absurd hletter (by simp [letter])
  | call a =>
    cases g with
    | call b => exact congrArg call ((String.append_right_inj _).mp h)
    | _ => exact absurd hletter (by simp [letter])
  | answer a =>
    cases g with
    | answer b => exact congrArg answer ((String.append_right_inj _).mp h)
    | _ => exact absurd hletter (by simp [letter])
  | read a i =>
    cases g with
    | read b j =>
      obtain ⟨rfl, rfl⟩ := read_inj h
      rfl
    | _ => exact absurd hletter (by simp [letter])

end HandlerForm
end ReporterBlocks

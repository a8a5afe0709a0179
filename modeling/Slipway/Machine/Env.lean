import Slipway.Text.Utf8
set_option autoImplicit false

namespace Slipway

abbrev Env := List (Bytes × Bytes)

namespace Env

def get? (e : Env) (name : Bytes) : Option Bytes := e.lookup name

/-- Binds a name; a name that is bound keeps its place. -/
def set : Env → Bytes → Bytes → Env
  | [], name, value => [(name, value)]
  | b :: e, name, value => if b.1 = name then (name, value) :: e else b :: set e name value

def unset (e : Env) (name : Bytes) : Env := e.filter fun b => b.1 != name

theorem get?_cons (b : Bytes × Bytes) (e : Env) (n : Bytes) :
    get? (b :: e) n = if b.1 = n then some b.2 else get? e n := by
  obtain ⟨m, w⟩ := b
  by_cases h : m = n
  · simp [get?, h]
  · have h' : (n == m) = false := beq_false_of_ne fun e => h e.symm
    simp [get?, h, List.lookup_cons, h']

@[simp] theorem get?_set_self (e : Env) (n v : Bytes) : (e.set n v).get? n = some v := by
  induction e with
  | nil => simp [set, get?_cons]
  | cons b e ih => by_cases h : b.1 = n <;> simp [set, get?_cons, h, ih]

theorem get?_set_of_ne (e : Env) (n m v : Bytes) (h : n ≠ m) : (e.set n v).get? m = e.get? m := by
  induction e with
  | nil => simp [set, get?_cons, h]
  | cons b e ih =>
    by_cases hb : b.1 = n
    · simp [set, get?_cons, hb, h]
    · simp [set, get?_cons, hb, ih]

theorem mem_set {e : Env} {n v : Bytes} {b : Bytes × Bytes} (h : b ∈ e.set n v) : b ∈ e ∨ b = (n, v) := by
  induction e with
  | nil => exact .inr (List.mem_singleton.1 h)
  | cons c e ih =>
    unfold set at h
    split at h
    · rcases List.mem_cons.1 h with rfl | h
      · exact .inr rfl
      · exact .inl (List.mem_cons_of_mem c h)
    · rcases List.mem_cons.1 h with rfl | h
      · exact .inl List.mem_cons_self
      · exact (ih h).imp_left (List.mem_cons_of_mem c)

@[simp] theorem get?_unset_self (e : Env) (n : Bytes) : (e.unset n).get? n = none := by
  induction e with
  | nil => rfl
  | cons b e ih =>
    simp only [unset] at ih ⊢
    by_cases h : b.1 = n <;> simp [get?_cons, h, ih]

def text? (e : Env) (name : Text) : Option Text := (e.get? (utf8 name)).bind decode?

def texts (e : Env) : Except Bytes (List (Text × Text)) :=
  e.mapM fun b =>
    match decode? b.1, decode? b.2 with
    | some n, some v => .ok (n, v)
    | none, _ => .error b.1
    | _, none => .error b.2

end Env

end Slipway

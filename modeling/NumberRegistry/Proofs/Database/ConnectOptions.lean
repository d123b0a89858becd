/-
  NumberRegistry.Proofs.Database.ConnectOptions — the password of a connection string.

  Parameters are taken into account one after the other, each on top of what the ones
  before it left. Only a parameter `password` touches the password
  (`parameter_password`), so the last of them decides if there is one, and else what stands
  before the query does (`parameters_password`).
-/
import NumberRegistry.Database.ConnectOptions
import NumberRegistry.Proofs.Text.Decimal

namespace NumberRegistry.Database

open Text

/-- The value of a parameter: the last one that is given. -/
def lastValue? (name : String) (ps : List (String × String)) : Option String := ps.reverse.lookup name

theorem lastValue?_cons (name key value : String) (ps : List (String × String)) :
    lastValue? name ((key, value) :: ps) = (lastValue? name ps).or (if key = name then some value else none) := by
  unfold lastValue?
  rw [List.reverse_cons, List.lookup_append]
  by_cases h : key = name
  · simp [h]
  · simp [h, List.lookup_cons, beq_false_of_ne (Ne.symm h)]

theorem mem_of_lastValue? {name value : String} {ps : List (String × String)} (h : lastValue? name ps = some value) :
    (name, value) ∈ ps := by
  induction ps with
  | nil => cases h
  | cons p ps ih =>
    obtain ⟨key, v⟩ := p
    rw [lastValue?_cons, Option.or_eq_some_iff] at h
    rcases h with h | ⟨-, h⟩
    · exact List.mem_cons_of_mem _ (ih h)
    · by_cases hkey : key = name
      · rw [if_pos hkey] at h
        cases h
        rw [hkey]
        exact List.mem_cons_self
      · rw [if_neg hkey] at h
        cases h

theorem lastValue?_isSome {name value : String} {ps : List (String × String)} (h : (name, value) ∈ ps) :
    (lastValue? name ps).isSome := by
  induction ps with
  | nil => cases h
  | cons p ps ih =>
    obtain ⟨key, v⟩ := p
    rw [lastValue?_cons, Option.isSome_or]
    rcases List.mem_cons.mp h with h | h
    · cases h
      simp
    · rw [ih h, Bool.true_or]

namespace ConnectOptions

variable {o o' : ConnectOptions}

/-- What one parameter does to the password. -/
theorem parameter_password {key value : String} {r : Option ConnectOptions} (h : o.parameter key value = .ok r) :
    (r.getD o).password = (if key = "password" then some value else none).or o.password := by
  have keeps {name : String} (hname : name ≠ "password") (hr : (r.getD o).password = o.password) :
      (r.getD o).password = (if name = "password" then some value else none).or o.password := by
    rw [if_neg hname, Option.none_or, hr]
  unfold parameter at h
  split at h
  case h_1 | h_2 | h_3 | h_6 =>
    obtain ⟨_, -, rfl⟩ := Decimal.map_ok_iff.mp h
    exact keeps (by decide) rfl
  case h_4 | h_7 | h_8 =>
    cases h
    exact keeps (by decide) rfl
  case h_5 =>
    split at h
    · cases h
      exact keeps (by decide) rfl
    · cases h
  case h_9 =>
    cases h
    rfl
  case h_10 hpassword =>
    cases h
    refine keeps hpassword ?_
    split
    · rfl
    · rfl

theorem parameters_password {ps : List (String × String)} (h : (o.parameters ps).1 = .ok o') :
    o'.password = (lastValue? "password" ps).or o.password := by
  induction ps generalizing o with
  | nil => cases h; rfl
  | cons p ps ih =>
    obtain ⟨key, value⟩ := p
    rw [lastValue?_cons, Option.or_assoc]
    unfold parameters at h
    split at h
    · cases h
    · rename_i hp
      rw [ih h, ← parameter_password hp, Option.getD_some]
    · rename_i hp
      rw [ih h, ← parameter_password hp, Option.getD_none]

/-- A password among the parameters is the one to connect with. -/
theorem parse_password {dsn value : String} {u : Url} (h : (parse dsn).1 = .ok o) (hu : Url.parse dsn = .ok u)
    (hvalue : lastValue? "password" (Http.Form.decode (u.query.getD "")) = some value) : o.password = some value := by
  unfold parse at h
  rw [hu] at h
  simp only at h
  split at h
  · cases h
  · rw [parameters_password h, hvalue, Option.some_or]

/-- Whether a string is accepted, and as what, can be decided. -/
theorem parse_of_toOption {dsn : String} (h : (parse dsn).1.toOption = some o) : (parse dsn).1 = .ok o := by
  cases hparse : (parse dsn).1 with
  | ok options =>
    rw [hparse] at h
    exact congrArg Except.ok (Option.some.inj h)
  | error e => rw [hparse] at h; cases h

end ConnectOptions

end NumberRegistry.Database

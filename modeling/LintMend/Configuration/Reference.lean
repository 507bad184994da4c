/-
LintMend.Configuration.Reference — references to environment variables.

In a configuration file, a dollar sign before a name in braces stands for the value of the
environment variable of that name. Values are put in as they are, and references in them are not
looked at.

  `Environment`            — variables with their values
  `Environment.substitute` — a text with its references replaced
-/
import LintMend.Failure

namespace LintMend

/-- The variables of an environment with their values, in order. -/
abbrev Environment := List (Text × Text)

namespace Environment

/-- The value of a variable, if it is defined. Names are compared by their bytes, and what cannot
be a name is not defined. -/
def value? (env : Environment) (name : Text) : Option Text :=
  if (Utf8.nameFault? name).isSome then none
  else (env.find? fun entry => Utf8.nameBytes entry.1 == Utf8.nameBytes name).map (·.2)

/-- The failure of a reference to a variable that is not defined: no variable can have such a name,
or none has it. -/
def missing (name : Text) : Failure :=
  match Utf8.nameFault? name with
  | some e => .unencodable e
  | none => .badValue ("Environment variable " ++ name ++ " not found")

/-- The value of a variable that is referred to. -/
def value (env : Environment) (name : Text) : Except Failure Text :=
  match env.value? name with
  | some t => .ok t
  | none => .error (missing name)

/-- The name in the reference at the start of a text, and the text after the reference. A name is
not empty, and goes on up to the next closing brace. -/
def reference? : Text → Option (Text × Text)
  | ⟨0x24⟩ :: ⟨0x7B⟩ :: rest =>
    match Text.cut? ⟨0x7D⟩ rest with
    | some (c :: name, after) => some (c :: name, after)
    | _ => none
  | _ => none

theorem length_of_cut? {c : CodePoint} {t left right : Text}
    (h : Text.cut? c t = some (left, right)) : right.length < t.length := by
  induction t generalizing left with
  | nil => simp [Text.cut?] at h
  | cons d rest ih =>
    unfold Text.cut? at h
    split at h
    · cases h
      simp
    · obtain ⟨⟨l, r⟩, hcut, heq⟩ := Option.map_eq_some_iff.1 h
      cases heq
      have := ih hcut
      simp
      omega

theorem length_of_reference? {t name after : Text} (h : reference? t = some (name, after)) :
    after.length < t.length := by
  unfold reference? at h
  split at h
  · split at h
    · rename_i hcut
      cases h
      have := length_of_cut? hcut
      simp
      omega
    · cases h
  · cases h

/-- The text with each reference replaced by the value of its variable. -/
def substitute (env : Environment) (t : Text) : Except Failure Text :=
  match _h : reference? t with
  | some (name, after) =>
    match env.value name with
    | .error failure => .error failure
    | .ok v =>
      match substitute env after with
      | .error failure => .error failure
      | .ok rest => .ok (v ++ rest)
  | none =>
    match t with
    | [] => .ok []
    | c :: rest =>
      match substitute env rest with
      | .error failure => .error failure
      | .ok u => .ok (c :: u)
termination_by t.length
decreasing_by
  · exact length_of_reference? _h
  · simp

end Environment

end LintMend

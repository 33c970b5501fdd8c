import EntitlementRules.Json.Reader
import EntitlementRules.Proofs.Procedure

/-! What readers take: the value that was read and the text that is left, or nothing where they refuse. -/
namespace EntitlementRules.Json

variable {α β : Type} {text other rest left : Bytes} {value : α} {final : β}

/-- What was read and what is left, without the fault of a refusal. -/
def taken (result : Except Fault (Read α text)) : Option (α × Bytes) :=
  result.toOption.map fun read => (read.value, read.rest)

variable {result : Except Fault (Read α text)} {next : Read α text → Except Fault (Read β other)}

@[simp]
theorem taken_ok {shorter : rest.length < text.length} :
    taken (.ok ⟨value, rest, shorter⟩) = some (value, rest) := rfl

@[simp]
theorem taken_pure {shorter : rest.length < text.length} :
    taken (pure ⟨value, rest, shorter⟩) = some (value, rest) := rfl

@[simp]
theorem taken_error {fault : Fault} : taken (.error fault : Except Fault (Read α text)) = none := rfl

theorem taken_eq_some_iff :
    taken result = some (value, rest) ↔ ∃ shorter, result = .ok ⟨value, rest, shorter⟩ := by
  cases result with
  | error fault => simp
  | ok read =>
    obtain ⟨found, middle, shorter⟩ := read
    simp only [taken_ok, Option.some.injEq, Prod.mk.injEq, Except.ok.injEq, Read.mk.injEq]
    constructor
    · rintro ⟨rfl, rfl⟩
      exact ⟨shorter, rfl, rfl⟩
    · rintro ⟨_, same⟩
      exact same

theorem taken_eq_none_iff : taken result = none ↔ ∃ fault, result = .error fault := by
  cases result with
  | error fault => simp
  | ok read => simp [taken, Except.toOption]

theorem taken_bind_iff :
    taken (result >>= next) = some (final, left) ↔
      ∃ value rest shorter, taken result = some (value, rest) ∧
        taken (next ⟨value, rest, shorter⟩) = some (final, left) := by
  cases result with
  | error fault => simp [bind, Except.bind]
  | ok read =>
    obtain ⟨found, middle, shorter⟩ := read
    simp only [taken_ok, Option.some.injEq, Prod.mk.injEq]
    constructor
    · intro read
      exact ⟨found, middle, shorter, ⟨rfl, rfl⟩, read⟩
    · rintro ⟨_, _, _, ⟨rfl, rfl⟩, read⟩
      exact read

/-- After what the first reader takes, the second one decides. -/
theorem taken_bind (first : taken result = some (value, rest)) {outcome : Option (β × Bytes)}
    (second : ∀ shorter, taken (next ⟨value, rest, shorter⟩) = outcome) :
    taken (result >>= next) = outcome := by
  obtain ⟨shorter, rfl⟩ := taken_eq_some_iff.mp first
  exact second shorter

theorem taken_bind_none (first : taken result = none) : taken (result >>= next) = none := by
  obtain ⟨fault, rfl⟩ := taken_eq_none_iff.mp first
  rfl

theorem taken_bind_eq {later : α × Bytes → Option (β × Bytes)}
    (second : ∀ value rest shorter, taken (next ⟨value, rest, shorter⟩) = later (value, rest)) :
    taken (result >>= next) = (taken result).bind later := by
  cases first : taken result with
  | none => exact taken_bind_none first
  | some part => exact taken_bind first (second part.1 part.2)

theorem length_lt_of_taken (read : taken result = some (value, rest)) : rest.length < text.length := by
  obtain ⟨shorter, -⟩ := taken_eq_some_iff.mp read
  exact shorter

/-- Another value and a longer text make no difference to what is left. -/
theorem taken_map {f : α → β} {change : Read α text → Read β other}
    (changes : ∀ read, (change read).value = f read.value ∧ (change read).rest = read.rest) :
    taken (result.map change) = (taken result).map fun part => (f part.1, part.2) := by
  cases result with
  | error fault => rfl
  | ok read => simp [taken, Except.map, Except.toOption, changes]

end EntitlementRules.Json

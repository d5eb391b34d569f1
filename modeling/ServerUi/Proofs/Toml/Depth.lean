import Mathlib.Data.List.Basic
import ServerUi.Proofs.Except
import ServerUi.Toml.Document

/-! However much room there is for calls within calls, there are texts whose values stand deeper in one
another than that. -/

namespace ServerUi.Toml

theorem skipLines_bracket (fuel : Nat) (rest : List Char) :
    skipLines fuel ('[' :: rest) = .ok ('[' :: rest) := by
  cases fuel <;> rfl

/-- Reading an array takes one call, and each of its items another one. -/
theorem readValue_tooDeep {room depth fuel : Nat} (hdeep : room + 1 < 2 * depth)
    (hfuel : 2 * depth ≤ fuel) (rest : List Char) :
    readValue (some room) fuel (List.replicate depth '[' ++ rest) = .error .tooDeep := by
  induction depth generalizing room fuel with
  | zero => omega
  | succ depth ih =>
    obtain ⟨fuel, rfl⟩ : ∃ more, fuel = more + 2 := ⟨fuel - 2, by omega⟩
    rw [List.replicate_succ, List.cons_append, readValue]
    cases room with
    | zero => rfl
    | succ room =>
      obtain ⟨depth, rfl⟩ : ∃ less, depth = less + 1 := ⟨depth - 1, by omega⟩
      have hbegun : List.replicate (depth + 1) '[' ++ rest =
          '[' :: (List.replicate depth '[' ++ rest) := rfl
      have hitems : readItems (some room) (fuel + 1) (List.replicate (depth + 1) '[' ++ rest) =
          .error .tooDeep := by
        rw [hbegun, readItems]
        · cases room with
          | zero => rfl
          | succ room =>
            have hvalue : readValue (some room) fuel _ = _ := ih (by omega) (by omega)
            rw [hbegun] at hvalue
            rw [called, ok_bind, hvalue]
            rfl
        · rintro _ ⟨⟩
      rw [called, ok_bind, hbegun, skipLines_bracket, ok_bind, ← hbegun, hitems]
      rfl

/-- A pair whose value begins with so many brackets. -/
def nested (depth : Nat) (rest : List Char) : List Char :=
  'a' :: '=' :: (List.replicate depth '[' ++ rest)

theorem joinedLines_nested (depth : Nat) (rest : List Char) :
    joinedLines (nested depth rest) = nested depth (joinedLines rest) := by
  have hbrackets : joinedLines (List.replicate depth '[' ++ rest) =
      List.replicate depth '[' ++ joinedLines rest := by
    induction depth with
    | zero => rfl
    | succ depth ih => exact congrArg ('[' :: ·) ih
  exact congrArg (fun cs => 'a' :: '=' :: cs) hbrackets

theorem readPair_nested (room : Option Nat) (p : Progress) {depth : Nat} (hdepth : 0 < depth)
    (rest : List Char) {flaw : TomlFlaw}
    (hvalue : ∀ fuel, 2 * depth ≤ fuel →
      readValue room fuel (List.replicate depth '[' ++ rest) = .error flaw) :
    readPair room p (nested depth rest) = .error flaw := by
  have hkey : readKey ((nested depth rest).length + 1) (nested depth rest) =
      .ok (["a"], '=' :: (List.replicate depth '[' ++ rest)) := rfl
  have hblanks : skipBlanks (List.replicate depth '[' ++ rest) = List.replicate depth '[' ++ rest := by
    obtain ⟨depth, rfl⟩ : ∃ less, depth = less + 1 := ⟨depth - 1, by omega⟩
    rfl
  rw [readPair, hkey, ok_bind]
  change (readValue room _ (skipBlanks (List.replicate depth '[' ++ rest)) >>= _) = _
  rw [hblanks, hvalue _ (by rw [List.length_append, List.length_replicate]; omega)]
  rfl

/-- An array within an array, and so on, for more than half of the room there is. -/
theorem readDocument_tooDeep {room depth : Nat} (hdeep : room + 1 < 2 * depth) (rest : List Char) :
    readDocument (some room) (nested depth rest) = .error .tooDeep := by
  have hpair := readPair_nested (some room) .start (by omega) (joinedLines rest)
    fun fuel hfuel => readValue_tooDeep hdeep hfuel (joinedLines rest)
  rw [readDocument, joinedLines_nested, readLines]
  have hstatement : readStatement (some room) .start (skipBlanks (nested depth (joinedLines rest))) =
      readPair (some room) .start (nested depth (joinedLines rest)) := rfl
  rw [hstatement, hpair]
  rfl

end ServerUi.Toml

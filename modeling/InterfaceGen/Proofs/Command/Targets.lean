import InterfaceGen.Command.Batch
import InterfaceGen.Proofs.Files.Following

/-!
# The paths of results

The result of a source has the place that the source has, but below the directory of the results and with
another extension.  So different sources have different results, and no result is a source.

Main definitions:

- `NamesSource`: the names that lead to a source below a directory.

Main results:

- Theorem `steps_resultPath` and `place_resultPath`: where the result of a source is.
- Theorem `resultPath_injective`: different sources have results at different paths.
- Theorem `place_resultPath_nil_ne`: the result of a source that is given by itself is not below the
  directory of the results.
-/

namespace InterfaceGen.Command

open InterfaceGen.Path FileTree

/-! ## Sources below a directory -/

/-- The names that lead to a source: names of directories and a name with the extension of sources. -/
structure NamesSource (names dirs : List Text) (stem : Text) : Prop where
  split : names = dirs ++ [stem ++ '.' :: sourceExtension]
  dirs_names : ∀ name ∈ dirs, IsName name
  is_name : IsName (stem ++ '.' :: sourceExtension)
  stem_ne_nil : stem ≠ []

/-- Names lead to a source if the path below a directory has the extension of sources. -/
theorem exists_namesSource {p : Text} (hp : p ≠ []) {names : List Text} (hnames : ∀ name ∈ names, IsName name)
    (hne : names ≠ []) (h : extension? (below p names) = some sourceExtension) :
    ∃ dirs stem, NamesSource names dirs stem := by
  obtain ⟨dirs, last, rfl⟩ := (List.eq_nil_or_concat names).resolve_left hne
  rw [List.concat_eq_append] at hnames h ⊢
  have hdirs : ∀ name ∈ dirs, IsName name := fun n hn => hnames n (List.mem_append_left _ hn)
  have hlast : IsName last := hnames last (by simp)
  rw [extension?, fileName?_below hdirs hp hlast, Option.bind_some] at h
  obtain ⟨hsplit, hstem, -⟩ := eq_of_splitName (Prod.ext rfl h)
  exact ⟨dirs, _, by rw [← hsplit], hdirs, hsplit ▸ hlast, hstem⟩

section Results

variable {out : Text} (hout : isAbsolute out = true)
include hout

/-- Results have absolute paths. -/
theorem isAbsolute_resultPath (relative : Text) : isAbsolute (resultPath out relative) = true :=
  isAbsolute_withExtension (isAbsolute_join hout relative) _

/-- The result of a source is below the directory of the results where the source is below its own, but for
the extension; where nothing but a dot is left of the name, the path leads to the directory around. -/
theorem steps_resultPath {names dirs : List Text} {stem : Text} (h : NamesSource names dirs stem) :
    steps (resultPath out (ofSteps names)) =
      steps out ++ dirs ++ [if stem = stay then up else stem ++ '.' :: resultExtension] := by
  have hbelow : join out (ofSteps names) = below out (dirs ++ [stem ++ '.' :: sourceExtension]) := by
    rw [h.split, below, if_neg (by simp)]
  rw [resultPath, hbelow]
  exact steps_withExtension_below h.dirs_names (ne_nil_of_isAbsolute hout) h.is_name h.stem_ne_nil (by decide)
    (by decide) (by decide)

/-- The result of a source has its place below that of the directory of the results, if it has a name. -/
theorem place_resultPath {names dirs : List Text} {stem name : Text} (h : NamesSource names dirs stem)
    (hname : fileName? (resultPath out (ofSteps names)) = some name) :
    place (resultPath out (ofSteps names)) = place out ++ (dirs ++ [stem ++ '.' :: resultExtension]) := by
  have hsteps := steps_resultPath hout h
  have hstem : stem ≠ stay := by
    intro hstay
    rw [if_pos hstay] at hsteps
    have hnone :=
      fileName?_eq_none_of_getLast?_up (isAbsolute_resultPath hout _) (hsteps ▸ List.getLast?_concat)
    simp [hnone] at hname
  obtain ⟨hstay, hup⟩ : stem ++ '.' :: resultExtension ≠ stay ∧ stem ++ '.' :: resultExtension ≠ up :=
    append_dot_ne h.stem_ne_nil (.inl hstem)
  have hnext : next (place out ++ dirs) (stem ++ '.' :: resultExtension) =
      place out ++ dirs ++ [stem ++ '.' :: resultExtension] := by
    have hmark : stem ++ '.' :: resultExtension ≠ directoryMark := by simp [directoryMark]
    simp only [next, hstay, hmark, hup, or_self, if_false]
  rw [if_neg hstem] at hsteps
  rw [place, hsteps, destination_append, destination_append, destination_names h.dirs_names,
    destination_cons, ← place, hnext, destination_nil, List.append_assoc]

omit hout in
/-- The result of a source that is given by itself takes the steps to the directory of the results, but for
the name at their end. -/
theorem steps_resultPath_nil (out : Text) :
    steps (resultPath out (ofSteps [])) = steps out ∨
      ∃ above last last' n, steps out = above ++ last :: List.replicate n stay ∧
        steps (resultPath out (ofSteps [])) = above ++ [last'] ∧ last ≠ stay ∧ last ≠ up ∧ last' ≠ stay := by
  have hjoin : steps (join out (ofSteps [])) = steps out := by
    rw [steps_join out rfl]
    exact List.append_nil _
  rw [← hjoin]
  exact steps_withExtension _ (by decide)

omit hout in
/-- The result of a source that is given by itself takes no more steps than the directory of the results. -/
theorem length_steps_resultPath_nil (out : Text) :
    (steps (resultPath out (ofSteps []))).length ≤ (steps out).length := by
  rcases steps_resultPath_nil out with hsame | ⟨above, last, last', n, hbefore, hafter, -⟩
  · exact Nat.le_of_eq (congrArg List.length hsame)
  · rw [hafter, hbefore]
    simp

/-- Different sources have results at different paths. -/
theorem resultPath_injective {names names' : List Text}
    (h : names = [] ∨ ∃ dirs stem, NamesSource names dirs stem)
    (h' : names' = [] ∨ ∃ dirs stem, NamesSource names' dirs stem)
    (heq : resultPath out (ofSteps names) = resultPath out (ofSteps names')) : names = names' := by
  -- A result below the directory takes more steps than the directory, and one beside it does not.
  have hlonger : ∀ {names dirs : List Text} {stem : Text}, NamesSource names dirs stem →
      resultPath out (ofSteps names) ≠ resultPath out (ofSteps []) := by
    intro names dirs stem h heq
    have hlength := length_steps_resultPath_nil out
    rw [← heq, steps_resultPath hout h, List.length_append, List.length_append,
      List.length_singleton] at hlength
    omega
  rcases h with rfl | ⟨dirs, stem, h⟩ <;> rcases h' with rfl | ⟨dirs', stem', h'⟩
  · rfl
  · exact absurd heq.symm (hlonger h')
  · exact absurd heq (hlonger h)
  · have hsteps := congrArg steps heq
    rw [steps_resultPath hout h, steps_resultPath hout h'] at hsteps
    obtain ⟨hdirs, hlast⟩ := List.append_inj' hsteps rfl
    obtain rfl := List.append_cancel_left hdirs
    have hstem : stem = stem' := by
      have hlength : ∀ stem : Text, (stem ++ '.' :: resultExtension).length ≠ up.length := by
        simp [resultExtension, up]
      have hcut : ∀ stem stem' : Text, [stem ++ '.' :: resultExtension] = [stem' ++ '.' :: resultExtension] →
          stem = stem' := fun _ _ h => List.append_cancel_right (List.singleton_inj.1 h)
      split at hlast <;> split at hlast
      · next hstay hstay' => rw [hstay, hstay']
      · exact absurd (congrArg List.length (List.singleton_inj.1 hlast)).symm (hlength stem')
      · exact absurd (congrArg List.length (List.singleton_inj.1 hlast)) (hlength stem)
      · exact hcut stem stem' hlast
    rw [h.split, h'.split, hstem]

/-- The result of a source that is given by itself is not below the directory of the results. -/
theorem place_resultPath_nil_ne {name : Text} (hname : fileName? (resultPath out (ofSteps [])) = some name)
    {names : List Text} (hne : names ≠ []) : place (resultPath out (ofSteps [])) ≠ place out ++ names := by
  intro heq
  have hlength := congrArg List.length heq
  rw [List.length_append] at hlength
  have hpos := List.length_pos_iff.2 hne
  have hup : (steps (resultPath out (ofSteps []))).getLast? ≠ some up := by
    intro hup
    rw [fileName?_eq_none_of_getLast?_up (isAbsolute_resultPath hout _) hup] at hname
    cases hname
  rcases steps_resultPath_nil out with
    hsame | ⟨above, last, last', n, hbefore, hafter, hstay, hlastup, hstay'⟩
  · rw [place, hsame, ← place] at hlength
    omega
  · have hlast : last ≠ directoryMark := (of_mem_steps (p := out) (by simp [hbefore])).1
    have hlast' : last' ≠ directoryMark :=
      (of_mem_steps (p := resultPath out (ofSteps [])) (by simp [hafter])).1
    have hup' : last' ≠ up := by simpa [hafter] using hup
    have hout' : place out = destination [] above ++ [last] := by
      rw [place, hbefore, destination_append, destination_cons, destination_replicate_stay]
      simp only [next, hstay, hlast, hlastup, or_self, if_false]
    have htarget : place (resultPath out (ofSteps [])) = destination [] above ++ [last'] := by
      rw [place, hafter, destination_append, destination_cons, destination_nil]
      simp only [next, hstay', hlast', hup', or_self, if_false]
    simp only [hout', htarget, List.length_append, List.length_singleton] at hlength
    omega

end Results

end InterfaceGen.Command

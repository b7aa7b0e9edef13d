import Launcher.Proofs.Path
import Launcher.Proofs.Text.Blank

/-!
# Enclosing directories and places inside them

A path is compared by its components, and its enclosing directory has the same ones but for the
last; a place inside a directory has those of the directory and then its own. So paths that are
equal by components lie in directories that are equal by components, and so do the places of one
name inside these, however the paths are spelled.

- `Path.segments_append`, `Path.segments_unsegment`: segments of what is put together.
- `Path.components_append`: the components of a directory come first in whatever is inside it.
- `Path.map_components_parent`: the components of the parent.
- `Path.parent_of_same`: equal paths have equal parents.
- `Path.components_join`: the components of a place in a directory.
- `Path.same_join`: one name has equal places in equal directories.
-/

namespace Launcher.Path

/-! ## Segments -/

theorem segments_cons (b : UInt8) (bs : List UInt8) (h : b ≠ slash) :
    ∃ s ss, segments bs = s :: ss ∧ segments (b :: bs) = (b :: s) :: ss := by
  obtain ⟨s, ss, hs⟩ := List.exists_cons_of_ne_nil (segments_ne_nil bs)
  exact ⟨s, ss, hs, by rw [segments, if_neg h, hs]⟩

/-- A slash is an end of a segment and the beginning of the next one. -/
theorem segments_append (a b : List UInt8) :
    segments (a ++ slash :: b) = segments a ++ segments b := by
  induction a with
  | nil => simp [segments]
  | cons c cs ih =>
    by_cases h : c = slash
    · simp [segments, h, ih]
    · obtain ⟨s, ss, hs, hcons⟩ := segments_cons c cs h
      rw [hcons, List.cons_append, segments, if_neg h, ih, hs]
      rfl

theorem slash_not_mem_segments {bs s : List UInt8} (h : s ∈ segments bs) : slash ∉ s := by
  induction bs generalizing s with
  | nil =>
    rw [segments, List.mem_singleton] at h
    rw [h]
    exact List.not_mem_nil
  | cons b bs ih =>
    by_cases hb : b = slash
    · rw [segments, if_pos hb] at h
      rcases List.mem_cons.1 h with rfl | hmem
      · exact List.not_mem_nil
      · exact ih hmem
    · obtain ⟨t, ts, hts, hcons⟩ := segments_cons b bs hb
      rw [hcons] at h
      rw [hts] at ih
      rcases List.mem_cons.1 h with rfl | hmem
      · exact fun hslash => (List.mem_cons.1 hslash).elim (fun heq => hb heq.symm)
          (ih List.mem_cons_self)
      · exact ih (List.mem_cons_of_mem t hmem)

theorem segments_of_not_mem {s : List UInt8} (h : slash ∉ s) : segments s = [s] := by
  induction s with
  | nil => rfl
  | cons b bs ih =>
    have hb : b ≠ slash := fun heq => h (heq ▸ List.mem_cons_self)
    rw [segments, if_neg hb, ih fun hmem => h (List.mem_cons_of_mem b hmem)]

theorem unsegment_cons (s : List UInt8) {ss : List (List UInt8)} (h : ss ≠ []) :
    unsegment (s :: ss) = s ++ slash :: unsegment ss := by
  cases ss with
  | nil => exact absurd rfl h
  | cons t ts => rfl

theorem unsegment_append {ss ts : List (List UInt8)} (hss : ss ≠ []) (hts : ts ≠ []) :
    unsegment (ss ++ ts) = unsegment ss ++ slash :: unsegment ts := by
  induction ss with
  | nil => exact absurd rfl hss
  | cons s ss ih =>
    by_cases hrest : ss = []
    · rw [hrest, List.singleton_append, unsegment_cons s hts]
      rfl
    · rw [List.cons_append, unsegment_cons s (by simp [hrest]), ih hrest, unsegment_cons s hrest,
        List.append_assoc, List.cons_append]

/-- Segments put together are what they were. -/
theorem segments_unsegment {ss : List (List UInt8)} (hss : ss ≠ []) (h : ∀ s ∈ ss, slash ∉ s) :
    segments (unsegment ss) = ss := by
  induction ss with
  | nil => exact absurd rfl hss
  | cons s ss ih =>
    have hs : segments s = [s] := segments_of_not_mem (h s List.mem_cons_self)
    by_cases hrest : ss = []
    · rw [hrest]
      exact hs
    · rw [unsegment_cons s hrest, segments_append, hs,
        ih hrest fun t ht => h t (List.mem_cons_of_mem s ht)]
      rfl

theorem unsegment_segments (bs : List UInt8) : unsegment (segments bs) = bs := by
  induction bs with
  | nil => rfl
  | cons b bs ih =>
    by_cases h : b = slash
    · rw [segments, if_pos h, unsegment_cons [] (segments_ne_nil bs), ih, h]
      rfl
    · obtain ⟨s, ss, hs, hcons⟩ := segments_cons b bs h
      rw [hs] at ih
      rw [hcons, ← ih]
      cases ss <;> rfl

/-! ## Steps -/

/-- The components of segments; idle segments have none. -/
def steps (ss : List (List UInt8)) : List Component :=
  (ss.filter fun s => !isIdle s).map Component.ofSegment

theorem components_eq (p : Path) : p.components = p.leadComponents ++ steps p.body := rfl

@[simp] theorem components_empty : empty.components = [] := rfl

theorem steps_append (ss ts : List (List UInt8)) : steps (ss ++ ts) = steps ss ++ steps ts := by
  simp [steps]

theorem steps_of_idle {ss : List (List UInt8)} (h : ∀ s ∈ ss, isIdle s = true) : steps ss = [] := by
  simpa [steps] using h

theorem steps_singleton {s : List UInt8} (h : isIdle s = false) :
    steps [s] = [Component.ofSegment s] := by
  simp [steps, h]

/-- Only idle segments are dropped, and only at the end. -/
theorem dropIdleEnd_append (ss : List (List UInt8)) :
    ∃ idle, ss = dropIdleEnd ss ++ idle ∧ ∀ s ∈ idle, isIdle s = true := by
  obtain ⟨idle, hidle, hall⟩ := Text.exists_append_dropWhile isIdle ss.reverse
  refine ⟨idle.reverse, ?_, fun s hs => hall s (List.mem_reverse.1 hs)⟩
  have hrest := congrArg List.reverse hidle
  rwa [List.reverse_reverse, List.reverse_append] at hrest

/-- What is left does not end in an idle segment. -/
theorem getLast?_dropIdleEnd {ss : List (List UInt8)} {s : List UInt8}
    (h : (dropIdleEnd ss).getLast? = some s) : isIdle s = false := by
  rw [dropIdleEnd, List.getLast?_reverse] at h
  exact Text.head_of_dropWhile isIdle _ s h

theorem steps_dropIdleEnd (ss : List (List UInt8)) : steps (dropIdleEnd ss) = steps ss := by
  obtain ⟨idle, hss, hidle⟩ := dropIdleEnd_append ss
  calc steps (dropIdleEnd ss)
      = steps (dropIdleEnd ss) ++ steps idle := by rw [steps_of_idle hidle, List.append_nil]
    _ = steps ss := by rw [← steps_append, ← hss]

/-- What is left makes a path that is not empty. -/
theorem unsegment_dropIdleEnd {ss : List (List UInt8)} (h : unsegment (dropIdleEnd ss) = []) :
    dropIdleEnd ss = [] := by
  cases hcase : dropIdleEnd ss with
  | nil => rfl
  | cons s rest =>
    rw [hcase] at h
    cases rest with
    | nil =>
      have hs : isIdle s = false := getLast?_dropIdleEnd (by rw [hcase]; rfl)
      rw [show s = [] from h] at hs
      cases hs
    | cons t ts =>
      rw [unsegment_cons s (List.cons_ne_nil t ts)] at h
      simp at h

/-! ## A path inside a directory -/

theorem isAbsolute_iff_lead (p : Path) : p.isAbsolute = true ↔ p.lead = [slash] := by
  unfold lead
  split
  · simp [*]
  · rename_i h
    simp only [h]
    split <;> simp [dot, slash]

/-- A lead stands for itself. -/
theorem leadComponents_of_lead {p q : Path} (h : p.lead = q.lead) :
    p.leadComponents = q.leadComponents := by
  have habsolute : p.isAbsolute = q.isAbsolute := by
    rw [Bool.eq_iff_iff, isAbsolute_iff_lead, isAbsolute_iff_lead, h]
  rw [leadComponents, leadComponents, habsolute, h]

/-- A lead by itself is all the lead there is. -/
theorem components_lead (p : Path) : components ⟨p.lead⟩ = p.leadComponents := by
  unfold leadComponents lead
  split
  · rfl
  · split
    · rfl
    · rfl

/-- Whatever is inside a directory starts as the directory does. -/
theorem lead_append {d : Path} (h : d.bytes ≠ []) (rest : List UInt8) :
    lead ⟨d.bytes ++ slash :: rest⟩ = d.lead := by
  obtain ⟨bytes⟩ := d
  -- two octets decide the lead, and a single one is followed by the slash
  match bytes, h with
  | [b], _ =>
    by_cases hslash : b = slash
    · simp [lead, isAbsolute, hslash]
    · simp [lead, isAbsolute, hslash, dot]
  | b :: c :: bs, _ =>
    simp [lead, isAbsolute, dot]

/-- The components of a directory come first in whatever is inside it. -/
theorem components_append {d : Path} (h : d.bytes ≠ []) (rest : List UInt8) :
    components ⟨d.bytes ++ slash :: rest⟩ = d.components ++ steps (segments rest) := by
  have hlead := lead_append h rest
  have hlength : d.lead.length ≤ d.bytes.length := by
    rw [← lead_append_drop d, List.length_append]
    omega
  have hbody : body ⟨d.bytes ++ slash :: rest⟩ = d.body ++ segments rest := by
    rw [body, hlead, List.drop_append_of_le_length hlength, segments_append]
    rfl
  rw [components_eq, components_eq, leadComponents_of_lead hlead, hbody, steps_append,
    List.append_assoc]

theorem components_root (rest : List UInt8) :
    components ⟨slash :: rest⟩ = .root :: steps (segments rest) := by
  simp [components_eq, leadComponents, isAbsolute, body, lead]

/-! ## The parent -/

/-- A path without steps has a parent if it is not the root and not empty. -/
theorem parent_of_idle {p : Path} (h : dropIdleEnd p.body = []) :
    p.components = p.leadComponents ∧
      p.parent = if p.lead = dot then some empty else none := by
  refine ⟨?_, by rw [parent, h]⟩
  rw [components_eq, ← steps_dropIdleEnd, h]
  exact List.append_nil _

/-- A path may be cut between two of its segments. -/
theorem components_cut {p : Path} {us ts : List (List UInt8)} (h : p.body = us ++ ts)
    (hts : ts ≠ []) (hus : unsegment us = [] → us = []) :
    p.components = components ⟨p.lead ++ unsegment us⟩ ++ steps ts := by
  have hfree : ∀ t ∈ ts, slash ∉ t := by
    intro t ht
    have hmem : t ∈ p.body := h ▸ List.mem_append_right us ht
    exact slash_not_mem_segments hmem
  by_cases hnone : us = []
  -- nothing but the lead is before the cut
  · rw [components_eq, h, hnone, unsegment, List.append_nil, components_lead]
    rfl
  · have hbytes : p.bytes = (p.lead ++ unsegment us) ++ slash :: unsegment ts := by
      rw [List.append_assoc, ← unsegment_append hnone hts, ← h, body, unsegment_segments,
        lead_append_drop]
    have hne : p.lead ++ unsegment us ≠ [] := by
      intro hnil
      exact hnone (hus (List.append_eq_nil_iff.1 hnil).2)
    have hwhole := components_append (d := ⟨p.lead ++ unsegment us⟩) hne (unsegment ts)
    rwa [segments_unsegment hts hfree, ← hbytes] at hwhole

/-- A path with steps loses the last one, and what is idle around it. -/
theorem parent_of_step {p : Path} {before : List (List UInt8)} {s : List UInt8}
    (h : dropIdleEnd p.body = before ++ [s]) :
    ∃ d, p.parent = some d ∧ p.components = d.components ++ [Component.ofSegment s] := by
  have hs : isIdle s = false := getLast?_dropIdleEnd (by rw [h, List.getLast?_concat])
  obtain ⟨after, hbody, hafter⟩ := dropIdleEnd_append p.body
  obtain ⟨between, hbefore, hbetween⟩ := dropIdleEnd_append before
  -- what goes is the step and whatever is idle on both sides of it
  have hcut : p.body = dropIdleEnd before ++ (between ++ s :: after) := by
    rw [← List.append_assoc, ← hbefore, hbody, h, List.append_assoc, List.singleton_append]
  have hsteps : steps (between ++ s :: after) = [Component.ofSegment s] := by
    rw [steps_append, steps_of_idle hbetween, ← List.singleton_append, steps_append,
      steps_of_idle hafter, steps_singleton hs]
    rfl
  refine ⟨⟨p.lead ++ unsegment (dropIdleEnd before)⟩, ?_, ?_⟩
  · rw [parent, h]
    cases hcons : before ++ [s] with
    | nil => simp at hcons
    | cons t ts =>
      have hlast : (t :: ts).dropLast = before := by rw [← hcons, List.dropLast_concat]
      show some (⟨p.lead ++ unsegment (dropIdleEnd (t :: ts).dropLast)⟩ : Path) = _
      rw [hlast]
  · rw [components_cut hcut (by simp) unsegment_dropIdleEnd, hsteps]

/-- The components of the parent are those of the path but for the last. The root and the empty path
have no parent. -/
theorem map_components_parent (p : Path) : p.parent.map components =
    if p.components = [] ∨ p.components = [.root] then none else some p.components.dropLast := by
  rcases List.eq_nil_or_concat (dropIdleEnd p.body) with hidle | ⟨before, s, hstep⟩
  · obtain ⟨hcomponents, hparent⟩ := parent_of_idle hidle
    rw [hcomponents, hparent]
    by_cases hroot : p.isAbsolute = true
    · simp [leadComponents, hroot, (isAbsolute_iff_lead p).1 hroot, dot, slash]
    · by_cases hdot : p.lead = dot
      · simp [leadComponents, hroot, hdot]
      · simp [leadComponents, hroot, hdot]
  · rw [List.concat_eq_append] at hstep
    obtain ⟨d, hparent, hcomponents⟩ := parent_of_step hstep
    rw [hcomponents, hparent, List.dropLast_concat, if_neg]
    · rfl
    · rintro (hnil | hroot)
      · simp at hnil
      · -- the last component is a step, and none leads to the root
        have hlast := congrArg List.getLast? hroot
        rw [List.getLast?_concat] at hlast
        exact ofSegment_ne_root s (Option.some.inj hlast)

/-- Equal paths lie in equal directories, or neither has one. -/
theorem parent_of_same {p q : Path} (h : p.same q = true) :
    p.parent.map components = q.parent.map components := by
  rw [map_components_parent, map_components_parent, same_iff.1 h]

/-! ## Places in a directory -/

theorem join_absolute (dir : Path) {name : Path} (h : name.isAbsolute = true) :
    dir.join name = name := if_pos h

/-- A place in a directory has the components of the directory and then its own steps. -/
theorem components_join {dir name : Path} (hname : name.isAbsolute = false)
    (hdir : dir.bytes ≠ []) :
    (dir.join name).components = dir.components ++ steps (segments name.bytes) := by
  rw [join, hname, if_neg Bool.false_ne_true]
  by_cases hslash : dir.bytes.getLast? = some slash
  · obtain ⟨before, hbefore⟩ := List.getLast?_eq_some_iff.1 hslash
    obtain ⟨bytes⟩ := dir
    have hbytes : bytes = before ++ [slash] := hbefore
    subst hbytes
    rw [if_pos (.inr hslash), List.append_assoc, List.singleton_append]
    -- the root is nothing but its slash, any other directory is there without it
    cases before with
    | nil =>
      rw [List.nil_append, List.nil_append, components_root, components_root]
      rfl
    | cons b bs =>
      rw [components_append (d := ⟨b :: bs⟩) (List.cons_ne_nil b bs),
        components_append (d := ⟨b :: bs⟩) (List.cons_ne_nil b bs)]
      simp [segments, steps, isIdle]
  · rw [if_neg (by simp [hdir, hslash]), components_append hdir]

/-- One name has equal places in equal directories. -/
theorem same_join {p q : Path} (h : p.same q = true) (hp : p.bytes ≠ []) (hq : q.bytes ≠ [])
    (name : Path) : (p.join name).same (q.join name) = true := by
  cases hname : name.isAbsolute with
  | true => rw [join_absolute p hname, join_absolute q hname, same_refl]
  | false =>
    rw [same_iff, components_join hname hp, components_join hname hq, same_iff.1 h]

end Launcher.Path

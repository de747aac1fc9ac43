import FlowCanvas.Palette.Folder
import FlowCanvas.Proofs.FirstOccurrences
import FlowCanvas.Proofs.Records
import Mathlib.Data.List.Sort
import Mathlib.Data.String.Basic

/-!
# Reading folders of block types

The subfolders of a folder are read one after the other, in the order of their names, and each gives
a block type (`Folder.type?`), is skipped, or ends the reading (`Folder.stop?`). What a subfolder
gives and whether it ends the reading depends on its files alone; whether the type is *registered*
depends on what is in the palette already. `readSubfolder_spec` says so of one subfolder, and
`readSubfolders_eq` of any number, by induction on them: the types whose ids are not registered are
appended, the first of each id (`newTypes`).

One broken description is not to hide the rest. That is what `Promised` says, of all subfolders. It
is kept **exactly if no subfolder ends the reading** (`readFolder_promised_iff`): a description that
is no JSON, no block type, or one whose id is taken is skipped; but one that is JSON without being a
record, with no template beside it, and one that is nested too deeply, hide all that come after
them. What comes before them is read as promised.
-/

namespace FlowCanvas.Palette

namespace Folder

/-- The record of a description, with the template beside it. -/
def withTemplate (fields : Fields Value) : Option String → Fields Value
  | none => fields
  | some template => Fields.set fields "template" (.text template)

/-- **The block type that a subfolder gives**: what its description, if that is JSON for a record,
describes together with the template. -/
def type? (folder : Folder) (dir : String) : Option BlockType :=
  match (folder.file? dir "plugin.json").map (Json.read .file) with
  | some (.ok (.object fields)) =>
    (BlockType.ofFields (withTemplate fields (folder.file? dir "template.rs"))).toOption
  | _ => none

/-- **Why a subfolder ends the reading**, if it does: its description is JSON, but no record, and
there is no template; or it is nested too deeply. -/
def stop? (folder : Folder) (dir : String) : Option Stop :=
  match (folder.file? dir "plugin.json").map (Json.read .file) with
  | some (.error refusal) => if refusal.complaint = .tooDeep then some .tooDeep else none
  | some (.ok (.object _)) => none
  | some (.ok _) => if (folder.file? dir "template.rs").isNone then some .notRecord else none
  | none => none

end Folder

/-- Of some block types those whose ids are not registered, the first of each id. -/
def newTypes (p : Palette) (types : List BlockType) : List BlockType :=
  (types.filter fun t ↦ !p.has t.id).eraseDupsBy fun t u ↦ t.id == u.id

variable {p : Palette} {folder : Folder} {dir : String}

/-! ### One subfolder -/

/-- **What becomes of a subfolder.** -/
inductive Folder.Becomes (p : Palette) (folder : Folder) (dir : String) : Folder.Step → Prop
  | stopped {why : Folder.Stop} (h : folder.stop? dir = some why) :
      Becomes p folder dir (.stopped why)
  | added {t : BlockType} (hstop : folder.stop? dir = none) (ht : folder.type? dir = some t)
      (hnew : p.has t.id = false) : Becomes p folder dir (.added t ⟨p.types ++ [t]⟩)
  | skipped (hstop : folder.stop? dir = none)
      (h : ∀ t, folder.type? dir = some t → p.has t.id = true) : Becomes p folder dir .skipped

/-- What becomes of a subfolder whose description is a record: the type is registered, or the
refusal is one that is passed over. -/
theorem becomes_of_record {fields : Fields Value} {step : Folder.Step}
    (hstop : folder.stop? dir = none)
    (htype : folder.type? dir = (BlockType.ofFields fields).toOption)
    (hadded : ∀ t q, p.register (.object fields) = .ok (t, q) → step = .added t q)
    (hskipped : ∀ fault, p.register (.object fields) = .error fault → fault ≠ .notRecord →
      step = .skipped) : Folder.Becomes p folder dir step := by
  rcases hof : BlockType.ofFields fields with fault | t
  · rw [hskipped (.description fault) (by simp [register, hof]) (by simp)]
    exact .skipped hstop (by simp [htype, hof, Except.toOption])
  · have htype : folder.type? dir = some t := by rw [htype, hof]; rfl
    cases hnew : p.has t.id with
    | false =>
      rw [hadded t ⟨p.types ++ [t]⟩ (by simp [register, hof, add, hnew, Except.map])]
      exact .added hstop htype hnew
    | true =>
      rw [hskipped (.alreadyRegistered t.id) (by simp [register, hof, add, hnew, Except.map])
        (by simp)]
      refine .skipped hstop fun u hu ↦ ?_
      rwa [← Option.some.inj (htype.symm.trans hu)]

/-- **What becomes of a subfolder**, by cases on what it holds. -/
theorem readSubfolder_spec (p : Palette) (folder : Folder) (dir : String) :
    Folder.Becomes p folder dir (readSubfolder p folder dir) := by
  rw [readSubfolder]
  rcases hfile : folder.file? dir "plugin.json" with - | text
  · have htype : folder.type? dir = none := by simp [Folder.type?, hfile]
    exact .skipped (by simp [Folder.stop?, hfile]) (by simp [htype])
  rcases hread : Json.read .file text with refusal | v
  · have htype : folder.type? dir = none := by simp [Folder.type?, hfile, hread]
    by_cases hdeep : refusal.complaint = .tooDeep
    · simp only [hread, hdeep]
      exact .stopped (by simp [Folder.stop?, hfile, hread, hdeep])
    · simp only [hread, hdeep]
      exact .skipped (by simp [Folder.stop?, hfile, hread, hdeep]) (by simp [htype])
  -- A record is registered with the template or without one, and anything else is not.
  cases v with
  | object fields =>
    have htype : folder.type? dir = (BlockType.ofFields
        (Folder.withTemplate fields (folder.file? dir "template.rs"))).toOption := by
      simp [Folder.type?, hfile, hread]
    refine becomes_of_record (by simp [Folder.stop?, hfile, hread]) htype (fun t q h ↦ ?_)
      fun fault h hfault ↦ ?_
    · cases htemplate : folder.file? dir "template.rs" with
      | none | some _ =>
        simp only [htemplate, Folder.withTemplate] at h
        simp only [hread, h]
    · cases htemplate : folder.file? dir "template.rs" with
      | none | some _ =>
        simp only [htemplate, Folder.withTemplate] at h
        cases fault with
        | notRecord => exact absurd rfl hfault
        | description _ | alreadyRegistered _ => simp only [hread, h]
  | _ =>
    have htype : folder.type? dir = none := by simp [Folder.type?, hfile, hread]
    cases htemplate : folder.file? dir "template.rs" with
    | none =>
      simp only [hread, register]
      exact .stopped (by simp [Folder.stop?, hfile, hread, htemplate])
    | some template =>
      simp only [hread]
      exact .skipped (by simp [Folder.stop?, hfile, hread, htemplate]) (by simp [htype])

/-! ### One after the other -/

theorem has_append_singleton (p : Palette) (t : BlockType) (id : String) :
    has ⟨p.types ++ [t]⟩ id = (p.has id || t.id == id) := by
  have hget : get? ⟨p.types ++ [t]⟩ id = (p.get? id).or (if t.id == id then some t else none) := by
    rw [get?, List.find?_append, List.find?_singleton]
    rfl
  rw [has, hget, Option.isSome_or, has]
  cases t.id == id <;> rfl

/-- Of a type and others, the type is new if its id is not registered, and then others with its id
are not. -/
theorem newTypes_cons (p : Palette) (t : BlockType) (types : List BlockType) :
    newTypes p (t :: types) =
      if p.has t.id then newTypes p types else t :: newTypes ⟨p.types ++ [t]⟩ types := by
  rw [newTypes]
  cases hnew : p.has t.id with
  | true =>
    rw [List.filter_cons_of_neg (by simp [hnew])]
    rfl
  | false =>
    rw [List.filter_cons_of_pos (by simp [hnew]), List.eraseDupsBy_cons, List.filter_filter,
      if_neg Bool.false_ne_true]
    refine congrArg (fun ts ↦ t :: List.eraseDupsBy _ ts) (List.filter_congr fun u _ ↦ ?_)
    rw [has_append_singleton]
    by_cases hu : u.id = t.id
    · simp [hu]
    · simp [hu, Ne.symm hu]

/-- The subfolders before the first that ends the reading. -/
def Folder.upToStop (folder : Folder) (dirs : List String) : List String :=
  dirs.takeWhile fun dir ↦ (folder.stop? dir).isNone

/-- **What reading subfolders comes to.** Those before the first that ends the reading are read, and
the new ones of the types that they give are appended. -/
theorem readSubfolders_eq (folder : Folder) (dirs : List String) (report : FolderReport)
    (hreport : report.stopped = none) :
    let new := newTypes report.palette ((folder.upToStop dirs).filterMap folder.type?)
    let after := readSubfolders folder dirs report
    after.palette.types = report.palette.types ++ new ∧ after.loaded = report.loaded ++ new ∧
      after.stopped = dirs.findSome? folder.stop? := by
  induction dirs generalizing report with
  | nil => exact ⟨(List.append_nil _).symm, (List.append_nil _).symm, hreport⟩
  | cons dir dirs ih =>
    intro new after
    have hspec := readSubfolder_spec report.palette folder dir
    cases hstep : readSubfolder report.palette folder dir with
    | stopped why =>
      rw [hstep] at hspec
      cases hspec with | stopped h => ?_
      have hnew : new = [] := by simp [new, Folder.upToStop, h, newTypes]
      have hafter : after = { report with stopped := some why } := by
        simp only [after, readSubfolders, hstep]
      simp [hafter, hnew, h]
    | added t q =>
      rw [hstep] at hspec
      cases hspec with | added hstop ht hfresh => ?_
      have hnew : new = t :: newTypes ⟨report.palette.types ++ [t]⟩
          ((folder.upToStop dirs).filterMap folder.type?) := by
        simp [new, Folder.upToStop, hstop, ht, newTypes_cons, hfresh]
      have hafter : after = readSubfolders folder dirs
          { report with palette := ⟨report.palette.types ++ [t]⟩
                        loaded := report.loaded ++ [t] } := by
        simp only [after, readSubfolders, hstep]
      obtain ⟨htypes, hloaded, hstopped⟩ := ih
        { report with palette := ⟨report.palette.types ++ [t]⟩
                      loaded := report.loaded ++ [t] } hreport
      rw [hafter, hnew, htypes, hloaded, hstopped]
      simp [hstop]
    | skipped =>
      rw [hstep] at hspec
      cases hspec with | skipped hstop h => ?_
      have hnew : new = newTypes report.palette
          ((folder.upToStop dirs).filterMap folder.type?) := by
        cases ht : folder.type? dir with
        | none => simp [new, Folder.upToStop, hstop, ht]
        | some t => simp [new, Folder.upToStop, hstop, ht, newTypes_cons, h t ht]
      have hafter : after =
          readSubfolders folder dirs { report with skipped := report.skipped ++ [dir] } := by
        simp only [after, readSubfolders, hstep]
      obtain ⟨htypes, hloaded, hstopped⟩ :=
        ih { report with skipped := report.skipped ++ [dir] } hreport
      rw [hafter, hnew, htypes, hloaded, hstopped]
      simp [hstop]

/-! ### The subfolders and their names -/

section Names

open Text (cutAt)

theorem not_mem_of_mem_cutAt {sep : Char} {cs piece : List Char} (h : piece ∈ cutAt sep cs) :
    sep ∉ piece := by
  induction cs generalizing piece with
  | nil =>
    rw [List.mem_singleton.1 h]
    exact List.not_mem_nil
  | cons c cs ih =>
    rw [cutAt] at h
    split_ifs at h with hc
    · rcases List.mem_cons.1 h with rfl | h
      · exact List.not_mem_nil
      · exact ih h
    · cases hcut : cutAt sep cs with
      | nil =>
        rw [hcut] at h
        rw [List.mem_singleton.1 h, List.mem_singleton]
        exact Ne.symm hc
      | cons first rest =>
        rw [hcut] at ih h
        rcases List.mem_cons.1 h with rfl | h
        · exact List.not_mem_cons_of_ne_of_not_mem (Ne.symm hc) (ih List.mem_cons_self)
        · exact ih (List.mem_cons_of_mem _ h)

/-- The piece in front of the first separator. -/
theorem cutAt_append {sep : Char} {piece : List Char} (hpiece : sep ∉ piece) (rest : List Char) :
    cutAt sep (piece ++ sep :: rest) = piece :: cutAt sep rest := by
  induction piece with
  | nil => rw [List.nil_append, cutAt, if_pos rfl]
  | cons c piece ih =>
    obtain ⟨hc, hpiece⟩ := not_or.1 (mt List.mem_cons.2 hpiece)
    rw [List.cons_append, cutAt, if_neg (Ne.symm hc), ih hpiece]

end Names

namespace Folder

/-- Whether a text is the name of a subfolder, and not a path. -/
def IsName (dir : String) : Prop := '/' ∉ dir.toList

theorem isName_of_described? {path : String} (h : described? path = some dir) : IsName dir := by
  rw [described?] at h
  cases hcut : Text.cutAt '/' path.toList with
  | nil => simp [hcut] at h
  | cons first rest =>
    have hdir : dir = String.ofList first := by
      rw [hcut, List.map_cons] at h
      split at h <;> simp_all
    rw [IsName, hdir, String.toList_ofList]
    exact not_mem_of_mem_cutAt (hcut ▸ List.mem_cons_self)

/-- The path of its description names a subfolder. -/
theorem described?_description (hdir : IsName dir) :
    described? (dir ++ "/" ++ "plugin.json") = some dir := by
  have hpath : (dir ++ "/" ++ "plugin.json").toList =
      dir.toList ++ '/' :: "plugin.json".toList := by
    simp [String.toList_append]
  have hname : Text.cutAt '/' "plugin.json".toList = ["plugin.json".toList] := by decide
  rw [described?, hpath, cutAt_append hdir, hname]
  simp [String.ofList_toList]

theorem mem_subfolders : dir ∈ folder.subfolders ↔
    ∃ file ∈ folder, described? file.1 = some dir := by
  rw [subfolders, List.mem_mergeSort, List.mem_eraseDups, List.mem_filterMap]

/-- A subfolder with a description is one of those that are read. -/
theorem mem_subfolders_of_file? (hdir : IsName dir) (h : (folder.file? dir "plugin.json").isSome) :
    dir ∈ folder.subfolders := by
  rw [file?, Option.isSome_map] at h
  obtain ⟨text, htext⟩ := Option.isSome_iff_exists.1 h
  exact mem_subfolders.2 ⟨_, Fields.mem_of_get? htext, described?_description hdir⟩

theorem isName_of_mem_subfolders (h : dir ∈ folder.subfolders) : IsName dir := by
  obtain ⟨_, -, hfile⟩ := mem_subfolders.1 h
  exact isName_of_described? hfile

theorem subfolders_eq {dirs : List String}
    (h : (folder.filterMap fun file ↦ described? file.1).eraseDups = dirs)
    (hsorted : dirs.Pairwise (· ≤ ·)) : folder.subfolders = dirs := by
  rw [subfolders, h]
  exact List.mergeSort_of_pairwise (by simpa using hsorted)

/-- **Subfolders are read in the order of their names**, each once. -/
theorem subfolders_sorted (folder : Folder) : folder.subfolders.Pairwise (· < ·) := by
  have hle : folder.subfolders.Pairwise (· ≤ ·) := List.pairwise_mergeSort' (· ≤ ·) _
  have hnodup : folder.subfolders.Nodup :=
    (List.mergeSort_perm _ _).nodup_iff.2 (firstOccurrences_eraseDups _).nodup
  exact (hle.and hnodup).imp fun h ↦ lt_of_le_of_ne h.1 h.2

end Folder

/-! ### What was promised -/

/-- **A subfolder contributes a type**: it gives the type, whose id is not registered, and no
subfolder that comes before gives a type of that id. The subfolders are those of which `among`
holds. -/
structure Folder.Contributes (p : Palette) (folder : Folder) (among : String → Prop) (dir : String)
    (t : BlockType) : Prop where
  mem : among dir
  gives : folder.type? dir = some t
  fresh : p.has t.id = false
  first : ∀ earlier, among earlier → earlier < dir →
    ∀ u, folder.type? earlier = some u → u.id ≠ t.id

/-- **Subfolders have been read, and none hides another.** What was registered is as it was. Under
any other id there is the type of the first subfolder that gives one, and nothing if none does. The
loaded types are the new ones, in the order in which the subfolders are read. -/
structure Scanned (p : Palette) (folder : Folder) (among : String → Prop) (report : FolderReport) :
    Prop where
  kept : ∀ id t, p.get? id = some t → report.palette.get? id = some t
  found : ∀ id t, p.get? id = none → (report.palette.get? id = some t ↔
    t.id = id ∧ ∃ dir, folder.Contributes p among dir t)
  types : report.palette.types = p.types ++ report.loaded
  loaded : ∃ dirs : List String, dirs.Pairwise (· < ·) ∧
    (∀ dir, dir ∈ dirs ↔ ∃ t, folder.Contributes p among dir t) ∧
      dirs.map folder.type? = report.loaded.map some

namespace Folder

/-- What two subfolders contribute under one id is the same type. -/
theorem Contributes.unique {among : String → Prop} {dir' : String} {t u : BlockType}
    (h : folder.Contributes p among dir t) (h' : folder.Contributes p among dir' u)
    (hid : t.id = u.id) : t = u := by
  rcases lt_trichotomy dir dir' with hlt | rfl | hlt
  · exact absurd hid (h'.first dir h.mem hlt t h.gives)
  · exact Option.some.inj (h.gives.symm.trans h'.gives)
  · exact absurd hid.symm (h.first dir' h'.mem hlt u h'.gives)

/-- Which subfolders there are matters only where they give types. -/
theorem Contributes.congr {among among' : String → Prop} {t : BlockType}
    (hsame : ∀ dir, (folder.type? dir).isSome → (among dir ↔ among' dir)) :
    folder.Contributes p among dir t ↔ folder.Contributes p among' dir t := by
  have hgives {dir : String} {u : BlockType} (h : folder.type? dir = some u) :
      among dir ↔ among' dir := hsame dir (by rw [h]; rfl)
  constructor <;> intro h
  · exact ⟨(hgives h.gives).1 h.mem, h.gives, h.fresh,
      fun dir hdir hlt u hu ↦ h.first dir ((hgives hu).2 hdir) hlt u hu⟩
  · exact ⟨(hgives h.gives).2 h.mem, h.gives, h.fresh,
      fun dir hdir hlt u hu ↦ h.first dir ((hgives hu).1 hdir) hlt u hu⟩

/-- What the first subfolder contributes, and what it leaves to the others. -/
theorem contributes_cons {d : String} {dirs : List String} {t : BlockType}
    (hd : ∀ e ∈ dirs, d < e) :
    folder.Contributes p (· ∈ d :: dirs) dir t ↔
      (dir = d ∧ folder.type? d = some t ∧ p.has t.id = false) ∨
        (folder.Contributes p (· ∈ dirs) dir t ∧ ∀ u, folder.type? d = some u → u.id ≠ t.id) := by
  constructor
  · rintro ⟨hmem, hgives, hfresh, hfirst⟩
    rcases List.mem_cons.1 hmem with rfl | hmem
    · exact .inl ⟨rfl, hgives, hfresh⟩
    · refine .inr ⟨⟨hmem, hgives, hfresh, fun e he ↦ hfirst e (List.mem_cons_of_mem _ he)⟩, ?_⟩
      exact hfirst d List.mem_cons_self (hd dir hmem)
  · rintro (⟨rfl, hgives, hfresh⟩ | ⟨h, hne⟩)
    · refine ⟨List.mem_cons_self, hgives, hfresh, fun e he hlt ↦ ?_⟩
      rcases List.mem_cons.1 he with rfl | he
      · exact absurd hlt (lt_irrefl e)
      · exact absurd hlt (lt_asymm (hd e he))
    · refine ⟨List.mem_cons_of_mem _ h.mem, h.gives, h.fresh, fun e he hlt ↦ ?_⟩
      rcases List.mem_cons.1 he with rfl | he
      · exact hne
      · exact h.first e he hlt

/-- With one type more, subfolders contribute what they did but for the types of its id. -/
theorem contributes_append {among : String → Prop} {t u : BlockType} :
    folder.Contributes ⟨p.types ++ [t]⟩ among dir u ↔
      folder.Contributes p among dir u ∧ t.id ≠ u.id := by
  have hfresh : has ⟨p.types ++ [t]⟩ u.id = false ↔ p.has u.id = false ∧ t.id ≠ u.id := by
    simp [has_append_singleton]
  constructor
  · intro h
    exact ⟨⟨h.mem, h.gives, (hfresh.1 h.fresh).1, h.first⟩, (hfresh.1 h.fresh).2⟩
  · rintro ⟨h, hne⟩
    exact ⟨h.mem, h.gives, hfresh.2 ⟨h.fresh, hne⟩, h.first⟩

/-- The new types of subfolders are what they contribute, in their order. -/
theorem newTypes_filterMap (p : Palette) (folder : Folder) {dirs : List String}
    (hsorted : dirs.Pairwise (· < ·)) :
    ∃ chosen : List String, chosen.Sublist dirs ∧
      (∀ dir, dir ∈ chosen ↔ ∃ t, folder.Contributes p (· ∈ dirs) dir t) ∧
        chosen.map folder.type? = (newTypes p (dirs.filterMap folder.type?)).map some := by
  induction dirs generalizing p with
  | nil =>
    refine ⟨[], .slnil, fun dir ↦ ⟨fun h ↦ absurd h List.not_mem_nil, ?_⟩, rfl⟩
    rintro ⟨t, h⟩
    exact absurd h.mem List.not_mem_nil
  | cons d dirs ih =>
    obtain ⟨hd, hsorted⟩ := List.pairwise_cons.1 hsorted
    simp only [contributes_cons hd]
    cases ht : folder.type? d with
    | none =>
      obtain ⟨chosen, hsub, hmem, hmap⟩ := ih p hsorted
      refine ⟨chosen, hsub.cons d, fun dir ↦ ?_, ?_⟩
      · simp [hmem]
      · rw [hmap, List.filterMap_cons_none ht]
    | some t =>
      rw [List.filterMap_cons_some ht, newTypes_cons]
      cases hnew : p.has t.id with
      | true =>
        obtain ⟨chosen, hsub, hmem, hmap⟩ := ih p hsorted
        refine ⟨chosen, hsub.cons d, fun dir ↦ ?_, by rw [hmap]; rfl⟩
        -- What is contributed has no registered id, so it has not the id of `t`.
        have hother {u : BlockType} (hu : p.has u.id = false) : t.id ≠ u.id := by
          intro heq
          rw [← heq, hnew] at hu
          exact Bool.false_ne_true hu.symm
        rw [hmem]
        constructor
        · rintro ⟨u, hu⟩
          exact ⟨u, .inr ⟨hu, fun _ heq ↦ Option.some.inj heq ▸ hother hu.fresh⟩⟩
        · rintro ⟨u, ⟨-, heq, hfresh⟩ | ⟨hu, -⟩⟩
          · exact absurd (congrArg BlockType.id (Option.some.inj heq)) (hother hfresh)
          · exact ⟨u, hu⟩
      | false =>
        obtain ⟨chosen, hsub, hmem, hmap⟩ := ih ⟨p.types ++ [t]⟩ hsorted
        refine ⟨d :: chosen, hsub.cons_cons d, fun dir ↦ ?_, by rw [List.map_cons, hmap, ht]; rfl⟩
        rw [List.mem_cons, hmem]
        constructor
        · rintro (rfl | ⟨u, hu⟩)
          · exact ⟨t, .inl ⟨rfl, rfl, hnew⟩⟩
          · obtain ⟨hu, hne⟩ := contributes_append.1 hu
            exact ⟨u, .inr ⟨hu, fun _ heq ↦ Option.some.inj heq ▸ hne⟩⟩
        · rintro ⟨u, ⟨rfl, -⟩ | ⟨hu, hne⟩⟩
          · exact .inl rfl
          · exact .inr ⟨u, contributes_append.2 ⟨hu, hne t rfl⟩⟩

/-- What is taken of sorted subfolders while a test holds: those where it holds, and before. -/
theorem mem_takeWhile_of_sorted {keep : String → Bool} {dirs : List String}
    (hsorted : dirs.Pairwise (· < ·)) :
    dir ∈ dirs.takeWhile keep ↔
      dir ∈ dirs ∧ ∀ earlier ∈ dirs, earlier ≤ dir → keep earlier = true := by
  induction dirs with
  | nil => simp
  | cons d dirs ih =>
    obtain ⟨hd, hsorted⟩ := List.pairwise_cons.1 hsorted
    cases hkeep : keep d with
    | false =>
      rw [List.takeWhile_cons_of_neg (by simp [hkeep])]
      refine ⟨fun h ↦ absurd h List.not_mem_nil, ?_⟩
      rintro ⟨hmem, hall⟩
      have hle : d ≤ dir := by
        rcases List.mem_cons.1 hmem with rfl | hmem
        · exact le_refl _
        · exact (hd dir hmem).le
      exact absurd (hall d List.mem_cons_self hle) (by simp [hkeep])
    | true =>
      rw [List.takeWhile_cons_of_pos hkeep, List.mem_cons, List.mem_cons, ih hsorted]
      constructor
      · rintro (rfl | ⟨hmem, hall⟩)
        · refine ⟨.inl rfl, fun e he hle ↦ ?_⟩
          rcases List.mem_cons.1 he with rfl | he
          · exact hkeep
          · exact absurd (hd e he) (not_lt_of_ge hle)
        · refine ⟨.inr hmem, fun e he hle ↦ ?_⟩
          rcases List.mem_cons.1 he with rfl | he
          · exact hkeep
          · exact hall e he hle
      · rintro ⟨rfl | hmem, hall⟩
        · exact .inl rfl
        · exact .inr ⟨hmem, fun e he ↦ hall e (List.mem_cons_of_mem _ he)⟩

/-- The first of sorted subfolders with a result has none before it with one. -/
theorem findSome?_eq_some_of_sorted {β : Type} {f : String → Option β} {b : β} {dirs : List String}
    (hsorted : dirs.Pairwise (· < ·)) :
    dirs.findSome? f = some b ↔
      ∃ dir ∈ dirs, f dir = some b ∧ ∀ earlier ∈ dirs, earlier < dir → f earlier = none := by
  rw [List.findSome?_eq_some_iff]
  constructor
  · rintro ⟨before, dir, after, rfl, hdir, hnone⟩
    refine ⟨dir, List.mem_append_right _ List.mem_cons_self, hdir, fun e he hlt ↦ ?_⟩
    obtain ⟨hafter, -⟩ := List.pairwise_cons.1 (List.pairwise_append.1 hsorted).2.1
    rcases List.mem_append.1 he with he | he
    · exact hnone e he
    · rcases List.mem_cons.1 he with rfl | he
      · exact absurd hlt (lt_irrefl e)
      · exact absurd hlt (lt_asymm (hafter e he))
  · rintro ⟨dir, hmem, hdir, hnone⟩
    obtain ⟨before, after, rfl⟩ := List.append_of_mem hmem
    refine ⟨before, dir, after, rfl, hdir, fun e he ↦ ?_⟩
    exact hnone e (List.mem_append_left _ he)
      ((List.pairwise_append.1 hsorted).2.2 e he dir List.mem_cons_self)

/-- Whether the reading gets as far as a subfolder: neither it nor one before it ends the
reading. -/
def Reached (folder : Folder) (dir : String) : Prop :=
  ∀ earlier ≤ dir, IsName earlier → folder.stop? earlier = none

theorem mem_subfolders_of_type? (hdir : IsName dir) (h : (folder.type? dir).isSome) :
    dir ∈ folder.subfolders := by
  refine mem_subfolders_of_file? hdir ?_
  cases hfile : folder.file? dir "plugin.json" with
  | none => simp [type?, hfile] at h
  | some _ => rfl

theorem mem_subfolders_of_stop? (hdir : IsName dir) (h : (folder.stop? dir).isSome) :
    dir ∈ folder.subfolders := by
  refine mem_subfolders_of_file? hdir ?_
  cases hfile : folder.file? dir "plugin.json" with
  | none => simp [stop?, hfile] at h
  | some _ => rfl

theorem stop?_eq_none (hdir : IsName dir) (h : dir ∈ folder.subfolders → folder.stop? dir = none) :
    folder.stop? dir = none := by
  by_contra hstop
  exact hstop (h (mem_subfolders_of_stop? hdir (Option.isSome_iff_ne_none.2 hstop)))

/-- The subfolders that are read are those that no stop comes before. -/
theorem mem_upToStop :
    dir ∈ folder.upToStop folder.subfolders ↔ dir ∈ folder.subfolders ∧ folder.Reached dir := by
  rw [upToStop, mem_takeWhile_of_sorted folder.subfolders_sorted]
  refine and_congr_right fun _ ↦ ⟨fun h e hle he ↦ ?_, fun h e he hle ↦ ?_⟩
  · exact stop?_eq_none he fun hmem ↦ Option.isNone_iff_eq_none.1 (h e hmem hle)
  · exact Option.isNone_iff_eq_none.2 (h e hle (isName_of_mem_subfolders he))

end Folder

open Folder

/-- If the new types of sorted subfolders have been appended, then the subfolders have been read. -/
theorem scanned_of_sorted {dirs : List String} {report : FolderReport}
    (hsorted : dirs.Pairwise (· < ·))
    (htypes : report.palette.types = p.types ++ newTypes p (dirs.filterMap folder.type?))
    (hloaded : report.loaded = newTypes p (dirs.filterMap folder.type?)) :
    Scanned p folder (· ∈ dirs) report := by
  obtain ⟨chosen, hsub, hmem, hmap⟩ := newTypes_filterMap p folder hsorted
  rw [← hloaded] at htypes hmap
  have hcontributes (t : BlockType) :
      t ∈ report.loaded ↔ ∃ dir, folder.Contributes p (· ∈ dirs) dir t := by
    have hgiven : t ∈ report.loaded ↔ ∃ dir ∈ chosen, folder.type? dir = some t := by
      rw [← List.mem_map, hmap, List.mem_map_of_injective (Option.some_injective _)]
    rw [hgiven]
    constructor
    · rintro ⟨dir, hdir, ht⟩
      obtain ⟨u, hu⟩ := (hmem dir).1 hdir
      exact ⟨dir, Option.some.inj (hu.gives.symm.trans ht) ▸ hu⟩
    · rintro ⟨dir, h⟩
      exact ⟨dir, (hmem dir).2 ⟨t, h⟩, h.gives⟩
  have hget (id : String) : report.palette.get? id =
      (p.get? id).or (report.loaded.find? fun t ↦ t.id == id) := by
    rw [get?, htypes, List.find?_append]
    rfl
  refine ⟨fun id t h ↦ by rw [hget, h]; rfl, fun id t h ↦ ?_, htypes,
    chosen, hsorted.sublist hsub, hmem, hmap⟩
  rw [hget, h, Option.none_or]
  constructor
  · intro hfind
    have hid : t.id = id := by simpa using List.find?_some hfind
    exact ⟨hid, (hcontributes t).1 (List.mem_of_find?_eq_some hfind)⟩
  · rintro ⟨hid, dir, ht⟩
    have hsome : (report.loaded.find? fun t ↦ t.id == id).isSome :=
      List.find?_isSome.2 ⟨t, (hcontributes t).2 ⟨dir, ht⟩, by simp [hid]⟩
    obtain ⟨u, hu⟩ := Option.isSome_iff_exists.1 hsome
    have huid : u.id = id := by simpa using List.find?_some hu
    obtain ⟨dir', hu'⟩ := (hcontributes u).1 (List.mem_of_find?_eq_some hu)
    rw [hu, hu'.unique ht (huid.trans hid.symm)]

theorem Scanned.congr {among among' : String → Prop} {report : FolderReport}
    (h : Scanned p folder among report)
    (hsame : ∀ dir, (folder.type? dir).isSome → (among dir ↔ among' dir)) :
    Scanned p folder among' report := by
  have hcongr (dir : String) (t : BlockType) :
      folder.Contributes p among dir t ↔ folder.Contributes p among' dir t :=
        Contributes.congr hsame
  obtain ⟨dirs, hsorted, hmem, hmap⟩ := h.loaded
  refine ⟨h.kept, fun id t hid ↦ ?_, h.types, dirs, hsorted, fun dir ↦ ?_, hmap⟩
  · simp only [h.found id t hid, hcongr]
  · simp only [hmem, hcongr]

/-- What comes before the first subfolder that ends the reading has been read. -/
theorem scanned_readFolder (p : Palette) (folder : Folder) :
    Scanned p folder (fun dir ↦ IsName dir ∧ folder.Reached dir) (p.readFolder (some folder)) := by
  obtain ⟨htypes, hloaded, -⟩ := readSubfolders_eq folder folder.subfolders { palette := p } rfl
  have hsorted : (folder.upToStop folder.subfolders).Pairwise (· < ·) :=
    folder.subfolders_sorted.sublist (List.takeWhile_sublist _)
  refine (scanned_of_sorted hsorted htypes hloaded).congr fun dir hdir ↦ ?_
  rw [mem_upToStop]
  exact and_congr_left fun _ ↦ ⟨isName_of_mem_subfolders, (mem_subfolders_of_type? · hdir)⟩

theorem stopped_readFolder (p : Palette) (folder : Folder) :
    (p.readFolder (some folder)).stopped = folder.subfolders.findSome? folder.stop? :=
  (readSubfolders_eq folder folder.subfolders { palette := p } rfl).2.2

/-- **The promise about folders**: nothing ends the reading, and all subfolders have been read. -/
def Promised (p : Palette) (folder : Folder) (report : FolderReport) : Prop :=
  report.stopped = none ∧ Scanned p folder IsName report

/-- **One broken description hides the rest exactly if it ends the reading.** The promise is kept if
and only if no subfolder ends the reading. In any case those before the first that does have been
read as promised, and the reading ends for its reason. -/
theorem readFolder_promised_iff (p : Palette) (folder : Folder) :
    let report := p.readFolder (some folder)
    (Promised p folder report ↔ ∀ dir, IsName dir → folder.stop? dir = none) ∧
      Scanned p folder (fun dir ↦ IsName dir ∧ folder.Reached dir) report ∧
      ∀ why, report.stopped = some why ↔ ∃ dir, IsName dir ∧ folder.stop? dir = some why ∧
        ∀ earlier < dir, IsName earlier → folder.stop? earlier = none := by
  intro report
  have hstopped := stopped_readFolder p folder
  have hscanned := scanned_readFolder p folder
  refine ⟨⟨fun h dir hdir ↦ ?_, fun h ↦ ⟨?_, ?_⟩⟩, hscanned, fun why ↦ ?_⟩
  · exact stop?_eq_none hdir (List.findSome?_eq_none_iff.1 (hstopped.symm.trans h.1) dir)
  · rw [hstopped, List.findSome?_eq_none_iff]
    exact fun dir hdir ↦ h dir (isName_of_mem_subfolders hdir)
  · exact hscanned.congr fun dir _ ↦ and_iff_left fun earlier _ ↦ h earlier
  · rw [hstopped, findSome?_eq_some_of_sorted folder.subfolders_sorted]
    constructor
    · rintro ⟨dir, hmem, hdir, hnone⟩
      refine ⟨dir, isName_of_mem_subfolders hmem, hdir, fun e hlt he ↦ ?_⟩
      exact stop?_eq_none he fun hmem ↦ hnone e hmem hlt
    · rintro ⟨dir, hname, hdir, hnone⟩
      refine ⟨dir, mem_subfolders_of_stop? hname (by rw [hdir]; rfl), hdir, fun e he hlt ↦ ?_⟩
      exact hnone e hlt (isName_of_mem_subfolders he)

/-- A text that is no JSON hides nothing. -/
theorem broken_text_hides_nothing :
    let folder : Folder := [("a/plugin.json", "broken"),
      ("b/plugin.json", "\x7b\"id\":\"b\",\"name\":\"B\"\x7d")]
    Promised empty folder (empty.readFolder (some folder)) := by
  intro folder
  have hsubfolders : folder.subfolders = ["a", "b"] :=
    subfolders_eq (by decide +kernel) (by decide)
  refine (readFolder_promised_iff empty folder).1.2 fun dir hdir ↦ stop?_eq_none hdir fun hmem ↦ ?_
  have hstops : ∀ dir ∈ ["a", "b"], folder.stop? dir = none := by decide +kernel
  exact hstops dir (hsubfolders ▸ hmem)

/-- A list in place of a record hides the subfolder behind it, which would have given a type. -/
theorem bare_list_hides_rest :
    let folder : Folder := [("a/plugin.json", "[]"),
      ("b/plugin.json", "\x7b\"id\":\"b\",\"name\":\"B\"\x7d")]
    let report := empty.readFolder (some folder)
    ((folder.type? "b").map BlockType.id = some "b" ∧ report.stopped = some .notRecord ∧
      report.palette.get? "b" = none) ∧ ¬ Promised empty folder report := by
  intro folder report
  have hsubfolders : folder.subfolders = ["a", "b"] :=
    subfolders_eq (by decide +kernel) (by decide)
  have hreport : report = readSubfolders folder ["a", "b"] { palette := empty } :=
    congrArg (readSubfolders folder · _) hsubfolders
  have hstopped : report.stopped = some .notRecord := by
    rw [hreport]
    decide +kernel
  refine ⟨⟨by decide +kernel, hstopped, by rw [hreport]; decide +kernel⟩, fun h ↦ ?_⟩
  exact absurd (hstopped.symm.trans h.1) (by simp)

end FlowCanvas.Palette

import ClusterProvision.Proofs.Numbering
import ClusterProvision.Settings
import Mathlib.Data.List.DropRight
import Mathlib.Data.List.TakeWhile

/-!
# `ClusterProvision.Proofs.RoleList`: which texts list roles

A list of roles can be written in many ways. The texts of the roles are joined with commas, with
white space around each of them and blank pieces in between, as one likes (`Settings.Renders`). Such
a text is read as the roles that it renders, and every text that is read at all is one of these
(`Settings.parseRoles_eq_ok_iff_renders`).

This has two halves. The text is cut at the commas, and joining the pieces again gives the text
(`Text.parts_intercalate`, `Text.intercalate_parts`); no piece of a rendering has a comma of its
own. Each piece is trimmed, and what is left is the text of a role or nothing
(`Settings.lists_iff`).

A text that is not read has only blank pieces, or one that is neither blank nor a known role. Of
these the first one is reported. `Settings.rolesRead` has all of this.
-/

set_option autoImplicit false

namespace ClusterProvision

/-! ### White space and commas -/

namespace Text

/-- A text of nothing but white space. -/
def Blank (cs : List Char) : Prop := ∀ c ∈ cs, isBlank c = true

/-- Trimming takes white space from both ends. -/
theorem exists_trimmed (cs : List Char) :
    ∃ before after, Blank before ∧ Blank after ∧ cs = before ++ trimmed cs ++ after := by
  refine ⟨cs.takeWhile isBlank, (cs.dropWhile isBlank).rtakeWhile isBlank, ?_, ?_, ?_⟩
  · intro c hc
    exact List.mem_takeWhile_imp hc
  · intro c hc
    exact List.mem_rtakeWhile_imp hc
  · have hend : trimmed cs ++ (cs.dropWhile isBlank).rtakeWhile isBlank = cs.dropWhile isBlank :=
      List.rdropWhile_append_rtakeWhile
    rw [List.append_assoc, hend, List.takeWhile_append_dropWhile]

theorem trimmed_eq_nil_iff (cs : List Char) : trimmed cs = [] ↔ Blank cs := by
  constructor
  · intro h
    obtain ⟨before, after, hbefore, hafter, heq⟩ := exists_trimmed cs
    rw [h, List.append_nil] at heq
    rw [heq]
    exact List.forall_mem_append.mpr ⟨hbefore, hafter⟩
  · intro h
    rw [trimmed, List.dropWhile_eq_nil_iff.mpr h]
    rfl

/-- White space at the two ends of a text does not stay. -/
theorem trimmed_append {before after : List Char} (hbefore : Blank before) (hafter : Blank after)
    (cs : List Char) : trimmed (before ++ cs ++ after) = trimmed cs := by
  have hreverse : ∀ c ∈ after.reverse, isBlank c = true := by
    intro c hc
    exact hafter c (List.mem_reverse.mp hc)
  rw [List.append_assoc, trimmed, List.dropWhile_append_of_pos hbefore, List.dropWhile_append]
  split
  · -- Nothing is left, so there is only white space.
    rename_i hblank
    rw [trimmed, List.isEmpty_iff.mp hblank, List.dropWhile_eq_nil_iff.mpr hafter]
  · rw [List.reverse_append, List.dropWhile_append_of_pos hreverse, trimmed]

theorem parts_eq_splitOn (separator : Char) (cs : List Char) :
    parts separator cs = cs.splitOn separator := by
  induction cs with
  | nil => simp [parts]
  | cons c cs ih =>
    rw [parts, ih, List.splitOn, List.splitOn, List.splitOnP_cons_eq_if_modifyHead]
    by_cases hc : c = separator
    · simp [hc]
    · simp only [hc, beq_iff_eq, if_false]
      cases h : cs.splitOnP (· == separator) with
      | nil => exact absurd h (List.splitOnP_ne_nil _ _)
      | cons part others => rfl

/-- Pieces without separators are what a text made of them is cut into. -/
theorem parts_intercalate {separator : Char} {pieces : List (List Char)} (hpieces : pieces ≠ [])
    (h : ∀ piece ∈ pieces, separator ∉ piece) :
    parts separator ([separator].intercalate pieces) = pieces := by
  rw [parts_eq_splitOn]
  exact List.splitOn_intercalate separator h hpieces

end Text

/-! ### Known roles -/

namespace Role

theorem isKnown_ofWire_iff (text : String) :
    (ofWire text).isKnown = true ↔ text ∈ known.map wire := by
  rw [List.mem_map]
  constructor
  · intro h
    exact ⟨ofWire text, mem_known.mpr h, wire_ofWire text⟩
  · rintro ⟨role, hrole, rfl⟩
    have hknown := mem_known.mp hrole
    rwa [canonical_of_isKnown hknown]

/-- The text of a known role begins and ends with something that is no white space. -/
theorem trimmed_wire {role : Role} (h : role.isKnown = true) :
    Text.trimmed role.wire.toList = role.wire.toList := by
  cases role with
  | unknown text => exact nomatch h
  | _ => rfl

theorem wire_ne_nil {role : Role} (h : role.isKnown = true) : role.wire.toList ≠ [] := by
  cases role with
  | unknown text => exact nomatch h
  | _ => exact List.cons_ne_nil _ _

theorem comma_not_mem_wire {role : Role} (h : role.isKnown = true) : ',' ∉ role.wire.toList := by
  cases role with
  | unknown text => exact nomatch h
  | _ => decide

end Role

/-! ### Renderings -/

namespace Settings

/-- Pieces that list roles: each piece is blank or the text of the next role with white space
around it. -/
inductive Lists : List (List Char) → List Role → Prop
  | nil : Lists [] []
  | blank {piece : List Char} (h : Text.Blank piece) {pieces : List (List Char)}
    {roles : List Role} (rest : Lists pieces roles) : Lists (piece :: pieces) roles
  | role {before after : List Char} (hbefore : Text.Blank before) (hafter : Text.Blank after)
    (role : Role) {pieces : List (List Char)} {roles : List Role} (rest : Lists pieces roles) :
    Lists ((before ++ role.wire.toList ++ after) :: pieces) (role :: roles)

/-- A text renders roles if it joins pieces that list them with commas. -/
def Renders (text : String) (roles : List Role) : Prop :=
  ∃ pieces, text.toList = [','].intercalate pieces ∧ Lists pieces roles

/-- What is left of pieces without white space and without those that are blank. -/
def kept (pieces : List (List Char)) : List (List Char) :=
  (pieces.map Text.trimmed).filter (· ≠ [])

theorem kept_cons_of_blank {piece : List Char} (h : Text.Blank piece)
    (pieces : List (List Char)) : kept (piece :: pieces) = kept pieces := by
  simp [kept, (Text.trimmed_eq_nil_iff piece).mpr h]

theorem kept_cons_of_not_blank {piece : List Char} (h : ¬ Text.Blank piece)
    (pieces : List (List Char)) : kept (piece :: pieces) = Text.trimmed piece :: kept pieces := by
  rw [← Text.trimmed_eq_nil_iff] at h
  simp [kept, h]

theorem kept_eq_nil_iff (pieces : List (List Char)) :
    kept pieces = [] ↔ ∀ piece ∈ pieces, Text.Blank piece := by
  simp [kept, Text.trimmed_eq_nil_iff]

/-- Pieces list known roles if what is kept of them are the texts of the roles. -/
theorem lists_iff {pieces : List (List Char)} {roles : List Role}
    (hknown : ∀ role ∈ roles, role.isKnown = true) :
    Lists pieces roles ↔ kept pieces = roles.map fun role => role.wire.toList := by
  constructor
  · -- Every piece is trimmed to the text of its role, and no such text is empty.
    intro h
    induction h with
    | nil => rfl
    | blank hblank rest ih => rw [kept_cons_of_blank hblank, ih hknown]
    | role hbefore hafter role rest ih =>
      obtain ⟨hrole, hrest⟩ := List.forall_mem_cons.mp hknown
      have htrimmed := (Text.trimmed_append hbefore hafter role.wire.toList).trans
        (Role.trimmed_wire hrole)
      rw [kept_cons_of_not_blank, htrimmed, ih hrest, List.map_cons]
      rw [← Text.trimmed_eq_nil_iff, htrimmed]
      exact Role.wire_ne_nil hrole
  · -- A piece that is not blank gets back the white space that it has lost.
    intro h
    induction pieces generalizing roles with
    | nil =>
      obtain rfl := List.map_eq_nil_iff.mp h.symm
      exact .nil
    | cons piece pieces ih =>
      by_cases hblank : Text.Blank piece
      · rw [kept_cons_of_blank hblank] at h
        exact .blank hblank (ih hknown h)
      · rw [kept_cons_of_not_blank hblank] at h
        obtain ⟨role, rest, rfl, hrole, hrest⟩ := List.map_eq_cons_iff.mp h.symm
        obtain ⟨before, after, hbefore, hafter, heq⟩ := Text.exists_trimmed piece
        rw [heq, ← hrole]
        exact .role hbefore hafter role (ih (List.forall_mem_cons.mp hknown).2 hrest.symm)

/-- Pieces that list known roles have no commas. -/
theorem Lists.comma_not_mem {pieces : List (List Char)} {roles : List Role} (h : Lists pieces roles)
    (hknown : ∀ role ∈ roles, role.isKnown = true) : ∀ piece ∈ pieces, ',' ∉ piece := by
  have hblank : ∀ cs, Text.Blank cs → ',' ∉ cs := by
    intro cs hcs hmem
    exact absurd (hcs ',' hmem) (by decide)
  induction h with
  | nil => exact nofun
  | blank hpiece rest ih => exact List.forall_mem_cons.mpr ⟨hblank _ hpiece, ih hknown⟩
  | role hbefore hafter role rest ih =>
    obtain ⟨hrole, hrest⟩ := List.forall_mem_cons.mp hknown
    refine List.forall_mem_cons.mpr ⟨?_, ih hrest⟩
    simp [hblank _ hbefore, hblank _ hafter, Role.comma_not_mem_wire hrole]

/-! ### Reading -/

theorem listedNames_eq (text : String) :
    listedNames text = (kept (Text.parts ',' text.toList)).map String.ofList := rfl

/-- The names in a text are looked through for one that is no known role's. -/
theorem parseRoles_eq (text : String) :
    parseRoles text
      = if listedNames text = [] then .error .noRoles
        else match (listedNames text).find? fun name => !(Role.ofWire name).isKnown with
          | some name => .error (.unknownRole name)
          | none => .ok ((listedNames text).map Role.ofWire) := by
  rw [parseRoles, List.find?_map]
  simp only [List.isEmpty_iff, List.map_eq_nil_iff, Function.comp_def]
  split
  · rfl
  · cases (listedNames text).find? fun name => !(Role.ofWire name).isKnown with
    | none => rfl
    | some name =>
      show Except.error (SettingsFault.unknownRole (Role.ofWire name).wire) = _
      rw [Role.wire_ofWire]

theorem find?_unknown_eq_none_iff (names : List String) :
    (names.find? fun name => !(Role.ofWire name).isKnown) = none
      ↔ ∀ name ∈ names, name ∈ Role.known.map Role.wire := by
  simp [← Role.isKnown_ofWire_iff]

theorem find?_unknown_eq_some_iff (names : List String) (name : String) :
    (names.find? fun name => !(Role.ofWire name).isKnown) = some name
      ↔ ∃ before after, names = before ++ name :: after
        ∧ (∀ other ∈ before, other ∈ Role.known.map Role.wire)
        ∧ name ∉ Role.known.map Role.wire := by
  rw [List.find?_eq_some_iff_append]
  simp only [← Role.isKnown_ofWire_iff, Bool.not_not, Bool.not_eq_true', Bool.not_eq_true]
  constructor
  · rintro ⟨hname, before, after, hsplit, hbefore⟩
    exact ⟨before, after, hsplit, hbefore, hname⟩
  · rintro ⟨before, after, hsplit, hbefore, hname⟩
    exact ⟨hname, before, after, hsplit, hbefore⟩

/-- Names are those of known roles if and only if they are read as these. -/
theorem map_ofWire_eq_iff (names : List String) (roles : List Role) :
    (∀ name ∈ names, name ∈ Role.known.map Role.wire) ∧ names.map Role.ofWire = roles
      ↔ (∀ role ∈ roles, role.isKnown = true) ∧ names = roles.map Role.wire := by
  constructor
  · rintro ⟨hnames, rfl⟩
    refine ⟨?_, ?_⟩
    · intro role hrole
      obtain ⟨name, hname, rfl⟩ := List.mem_map.mp hrole
      exact (Role.isKnown_ofWire_iff name).mpr (hnames name hname)
    · rw [List.map_map]
      exact (List.map_id'' Role.wire_ofWire names).symm
  · rintro ⟨hknown, rfl⟩
    refine ⟨?_, ?_⟩
    · intro name hname
      obtain ⟨role, hrole, rfl⟩ := List.mem_map.mp hname
      exact List.mem_map_of_mem (Role.mem_known.mpr (hknown role hrole))
    · rw [List.map_map]
      refine (List.map_congr_left ?_).trans (List.map_id _)
      intro role hrole
      exact Role.canonical_of_isKnown (hknown role hrole)

/-- A text is read as known roles if the names in it are those of the roles. -/
theorem parseRoles_eq_ok_iff (text : String) (roles : List Role) :
    parseRoles text = .ok roles
      ↔ roles ≠ [] ∧ (∀ role ∈ roles, role.isKnown = true)
        ∧ listedNames text = roles.map Role.wire := by
  rw [← map_ofWire_eq_iff, ← find?_unknown_eq_none_iff, parseRoles_eq]
  constructor
  · intro h
    split at h
    · exact nomatch h
    · rename_i hnames
      split at h
      · exact nomatch h
      · rename_i hnone
        cases h
        exact ⟨fun hnil => hnames (List.map_eq_nil_iff.mp hnil), hnone, rfl⟩
  · rintro ⟨hroles, hnone, rfl⟩
    rw [if_neg fun hnil => hroles (List.map_eq_nil_iff.mpr hnil), hnone]

/-- A text is read as the known roles that it renders. -/
theorem parseRoles_eq_ok_iff_renders (text : String) (roles : List Role) :
    parseRoles text = .ok roles
      ↔ roles ≠ [] ∧ (∀ role ∈ roles, role.isKnown = true) ∧ Renders text roles := by
  rw [parseRoles_eq_ok_iff]
  refine and_congr_right fun hroles => and_congr_right fun hknown => ?_
  have hlists : listedNames text = roles.map Role.wire
      ↔ Lists (Text.parts ',' text.toList) roles := by
    rw [lists_iff hknown, listedNames_eq, ← List.map_inj_right fun _ _ => String.ofList_inj.mp,
      List.map_map]
    simp [Function.comp_def]
  rw [hlists]
  constructor
  · intro h
    exact ⟨_, (Text.intercalate_parts ',' text.toList).symm, h⟩
  · rintro ⟨pieces, htext, h⟩
    -- An empty text is one blank piece, but it joins no pieces, too; then there are no roles.
    have hpieces : pieces ≠ [] := by
      rintro rfl
      cases h
      exact hroles rfl
    rwa [htext, Text.parts_intercalate hpieces (h.comma_not_mem hknown)]

example : parseRoles " ,worker ,,\u3000control-plane\t" = .ok [.worker, .controlPlane] := by
  decide +kernel

theorem parseRoles_eq_noRoles_iff (text : String) :
    parseRoles text = .error .noRoles
      ↔ ∀ piece ∈ Text.parts ',' text.toList, Text.Blank piece := by
  have hnames : listedNames text = [] ↔ kept (Text.parts ',' text.toList) = [] := by
    rw [listedNames_eq, List.map_eq_nil_iff]
  rw [← kept_eq_nil_iff, ← hnames, parseRoles_eq]
  split
  · rename_i hnil
    simp [hnil]
  · rename_i hne
    split <;> simp [hne]

/-- The first name that is no known role's is reported. -/
theorem parseRoles_eq_unknownRole_iff (text name : String) :
    parseRoles text = .error (.unknownRole name)
      ↔ ∃ before after, listedNames text = before ++ name :: after
        ∧ (∀ other ∈ before, other ∈ Role.known.map Role.wire)
        ∧ name ∉ Role.known.map Role.wire := by
  rw [← find?_unknown_eq_some_iff, parseRoles_eq]
  split
  · rename_i hnil
    simp [hnil]
  · split
    · rename_i other hother
      simp [hother]
    · rename_i hnone
      simp [hnone]

/-- How a text that is to list roles is read. -/
structure RolesRead (text : String) : Prop where
  /-- It is read as known roles if the names between its commas are those of the roles. -/
  names : ∀ roles, parseRoles text = .ok roles
    ↔ roles ≠ [] ∧ (∀ role ∈ roles, role.isKnown = true) ∧ listedNames text = roles.map Role.wire
  /-- It is read as known roles if it is a way of writing them. -/
  renders : ∀ roles, parseRoles text = .ok roles
    ↔ roles ≠ [] ∧ (∀ role ∈ roles, role.isKnown = true) ∧ Renders text roles
  /-- No roles are listed if there is nothing but white space between the commas. -/
  noRoles : parseRoles text = .error .noRoles
    ↔ ∀ piece ∈ Text.parts ',' text.toList, Text.Blank piece
  /-- A role is refused if it is the first one that is not known. -/
  unknownRole : ∀ name, parseRoles text = .error (.unknownRole name)
    ↔ ∃ before after, listedNames text = before ++ name :: after
      ∧ (∀ other ∈ before, other ∈ Role.known.map Role.wire)
      ∧ name ∉ Role.known.map Role.wire
  /-- There is no other fault. -/
  faults : ∀ fault, parseRoles text = .error fault →
    fault = .noRoles ∨ ∃ name, fault = .unknownRole name

/-- A text lists roles if and only if it renders them. -/
theorem rolesRead (text : String) : RolesRead text where
  names := parseRoles_eq_ok_iff text
  renders := parseRoles_eq_ok_iff_renders text
  noRoles := parseRoles_eq_noRoles_iff text
  unknownRole := parseRoles_eq_unknownRole_iff text
  faults := by
    intro fault h
    rw [parseRoles_eq] at h
    split at h
    · cases h
      exact .inl rfl
    · split at h
      · rename_i name _
        cases h
        exact .inr ⟨name, rfl⟩
      · exact nomatch h

end Settings
end ClusterProvision

import ListeningCharts.Proofs.Files
import ListeningCharts.Proofs.Lines
import Mathlib.Data.List.DropRight

/-! # Paths

    A path is walked segment by segment. This module says where a path to a file leads, and where the
    path leads that a document is written to first.

    * **Walks**: a walk over segments in two parts is two walks (`FileTree.walk_append_eq_ok_iff`).
      Empty segments and dots stay where they are (`FileTree.eq_of_walk_stays`).
    * **Trees**: whatever is found below a place is found below a directory. So a path to a file ends
      with the name of the file (`FileTree.exists_name_of_file`).
    * **Siblings**: the path for the first write differs from the path of the document in the last
      segment only, up to segments that stay (`FileStore.locate_temporary_eq`). It leads to a place
      beside the document (`FileStore.locate_temporary`).
-/

namespace ListeningCharts

namespace FileTree

variable {t : FileTree} {place p : Place} {front back segments : List Text} {s : Text}

/-! ## Walks -/

/-- A segment that stays where it is. -/
def Stays (s : Text) : Prop := s = [] ∨ s = ['.']

theorem walk_append (front back : List Text) :
    t.walk place (front ++ back) = (t.walk place front).bind fun q => t.walk q back := by
  induction front generalizing place with
  | nil => rfl
  | cons s front ih =>
    rw [List.cons_append, walk, walk]
    split
    · rfl
    · rfl
    · split
      · exact ih
      · split
        · exact ih
        · exact ih

theorem walk_append_eq_ok_iff :
    t.walk place (front ++ back) = .ok p ↔
      ∃ q, t.walk place front = .ok q ∧ t.walk q back = .ok p := by
  rw [walk_append]
  exact bind_eq_ok_iff

/-- A walk goes on from directories only. -/
theorem get?_of_walk_cons (h : t.walk place (s :: segments) = .ok p) :
    t.get? place = some .directory := by
  rw [walk] at h
  split at h
  · cases h
  · cases h
  · next hdirectory => exact hdirectory

theorem walk_stay (hplace : t.get? place = some .directory) (hs : Stays s) :
    t.walk place (s :: segments) = t.walk place segments := by
  have hs' : s = [] ∨ s = ['.'] := hs
  rw [walk, hplace]
  simp only [hs', if_true]

/-- A name leads from a directory to a place in it. -/
theorem walk_name (hplace : t.get? place = some .directory) (hs : ¬ Stays s)
    (hup : s ≠ ['.', '.']) : t.walk place [s] = .ok (place ++ [s]) := by
  have hs' : ¬ (s = [] ∨ s = ['.']) := hs
  rw [walk, hplace]
  simp only [hs', hup, if_false]
  rfl

theorem walk_up (hplace : t.get? place = some .directory) :
    t.walk place [['.', '.']] = .ok place.dropLast := by
  rw [walk, hplace]
  simp only [reduceCtorEq, List.cons.injEq, and_false, or_self, if_false, if_true]
  rfl

/-- A walk over segments that stay ends where it started. -/
theorem eq_of_walk_stays (hs : ∀ s ∈ segments, Stays s) (h : t.walk place segments = .ok p) :
    p = place := by
  induction segments with
  | nil => exact (Except.ok.inj h).symm
  | cons s segments ih =>
    obtain ⟨hhead, htail⟩ := List.forall_mem_cons.1 hs
    rw [walk_stay (get?_of_walk_cons h) hhead] at h
    exact ih htail h

/-! ## Trees -/

/-- Whatever is found below a place is found below a directory. -/
def IsTree (t : FileTree) : Prop := ∀ p, t.get? p ≠ none → t.get? p.dropLast = some .directory

/-- The tree can be checked entry by entry. -/
theorem isTree_of_entries (h : ∀ entry ∈ t.entries, t.get? entry.1.dropLast = some .directory) :
    t.IsTree := by
  intro p hp
  rw [get?] at hp
  split at hp
  · next hroot =>
    rw [hroot]
    exact if_pos rfl
  · obtain ⟨e, he⟩ := Option.ne_none_iff_exists'.1 hp
    obtain ⟨before, after, hentries, -⟩ := List.lookup_eq_some_iff.1 he
    exact h (p, e) (by simp [hentries])

/-- **A path to a file ends with its name**. The other segments lead to a directory. -/
theorem exists_name_of_file (htree : t.IsTree) {content : Bytes}
    (hwalk : t.walk place (front ++ [s]) = .ok p) (hfile : t.get? p = some (.file content)) :
    ∃ d, t.walk place front = .ok d ∧ t.get? d = some .directory ∧ p = d ++ [s] := by
  obtain ⟨d, hfront, hlast⟩ := walk_append_eq_ok_iff.1 hwalk
  have hd := get?_of_walk_cons hlast
  refine ⟨d, hfront, hd, ?_⟩
  by_cases hstays : Stays s
  · -- the path would lead to the directory
    rw [eq_of_walk_stays (by simpa using hstays) hlast, hd] at hfile
    cases hfile
  · by_cases hup : s = ['.', '.']
    · -- the path would lead to the directory above it
      rw [hup, walk_up hd] at hlast
      obtain rfl := Except.ok.inj hlast
      have hparent := htree d (by rw [hd]; simp)
      rw [hparent] at hfile
      cases hfile
    · rw [walk_name hd hstays hup] at hlast
      exact (Except.ok.inj hlast).symm

/-! ## Segments -/

/-- Where the walk over a path starts. -/
def origin (t : FileTree) (path : Text) : Place := if path.head? = some '/' then [] else t.current

theorem locate_eq {path : Text} (h : path ≠ []) :
    t.locate path = t.walk (t.origin path) (path.splitOn '/') := by
  match path with
  | [] => exact absurd rfl h
  | c :: rest =>
    by_cases hc : c = '/'
    · -- the empty segment in front of the slash stays at the root
      subst hc
      have hsplit : ('/' :: rest).splitOn '/' = [] :: rest.splitOn '/' := by
        rw [List.splitOn_cons_eq_if_modifyHead, if_pos (beq_self_eq_true '/')]
      have hroot : t.get? [] = some .directory := if_pos rfl
      rw [locate, origin, hsplit, List.head?_cons, if_pos rfl, walk_stay hroot (.inl rfl)]
    · rw [locate, origin, List.head?_cons, if_neg (by simpa using hc)]
      · exact fun heq => h heq
      · exact fun rest' heq => hc (List.cons.inj heq).1

end FileTree

/-! ## Joined segments -/

/-- Segments with a slash between each two. -/
abbrev joinSegments (segments : List Text) : Text := ['/'].intercalate segments

section Segments

variable {segments others : List Text} {s first second : Text}

theorem joinSegments_cons (h : segments ≠ []) :
    joinSegments (s :: segments) = s ++ '/' :: joinSegments segments := by
  rw [joinSegments, List.intercalate_cons_of_ne_nil h, List.append_assoc, List.singleton_append]

theorem joinSegments_snoc (h : segments ≠ []) :
    joinSegments (segments ++ [s]) = joinSegments segments ++ '/' :: s := by
  induction segments with
  | nil => exact absurd rfl h
  | cons first segments ih =>
    rw [List.cons_append, joinSegments_cons (by simp)]
    cases segments with
    | nil => simp [joinSegments]
    | cons second segments =>
      have hne : second :: segments ≠ [] := List.cons_ne_nil _ _
      rw [ih hne, joinSegments_cons hne, List.append_assoc, List.cons_append]

/-- The first of several segments tells how the path starts. -/
theorem head?_joinSegments (h : segments ≠ []) : (joinSegments (s :: segments)).head? =
    if s = [] then some '/' else s.head? := by
  rw [joinSegments_cons h]
  cases s <;> simp

/-- The last segment tells how the path ends. -/
theorem getLast?_joinSegments (h : s ≠ []) :
    (joinSegments (segments ++ [s])).getLast? = s.getLast? := by
  cases segments with
  | nil => simp [joinSegments]
  | cons first segments =>
    rw [joinSegments_snoc (List.cons_ne_nil _ _), List.getLast?_append,
      List.getLast?_cons_of_ne_nil h]
    cases hlast : s.getLast? with
    | none => exact absurd (List.getLast?_eq_none_iff.1 hlast) h
    | some c => rfl

end Segments

namespace FileStore

open FileTree

variable {t : FileTree} {path : Text} {init : List Text} {name : Text}

/-! ## Segments at the end -/

/-- What is trimmed stays. -/
theorem exists_trimSegments (segments : List Text) :
    ∃ trimmed, segments = trimSegments segments ++ trimmed ∧ ∀ s ∈ trimmed, Stays s := by
  refine ⟨segments.rtakeWhile fun s => s == [] || s == ['.'], ?_, fun s hs => ?_⟩
  · exact List.rdropWhile_append_rtakeWhile.symm
  · simpa [Stays] using List.mem_rtakeWhile_imp hs

/-- What is not trimmed ends with a name, if it is not empty. -/
theorem trimSegments_cases (segments : List Text) :
    trimSegments segments = [] ∨
      ∃ front last, trimSegments segments = front ++ [last] ∧ last ≠ [] := by
  by_cases hne : trimSegments segments = []
  · exact .inl hne
  · have hlast := List.rdropWhile_last_not (fun s : Text => s == [] || s == ['.']) segments hne
    refine .inr ⟨_, _, (List.dropLast_concat_getLast hne).symm, fun hnil => hlast ?_⟩
    have hgoal : (trimSegments segments).getLast hne = [] := hnil
    show ((trimSegments segments).getLast hne == [] || _) = true
    rw [hgoal]
    rfl

/-! ## The file beside a document -/

/-- The place beside a place that a document is written to first. -/
def sibling (p : Place) : Place := p.dropLast ++ [p.getLastD [] ++ ".lastmark.tmp"]

theorem sibling_snoc (d : Place) (name : Text) :
    sibling (d ++ [name]) = d ++ [name ++ ".lastmark.tmp"] := by
  rw [sibling, List.dropLast_concat, List.getLastD_concat]

theorem sibling_ne (p : Place) : sibling p ≠ p := by
  intro h
  have hlast := congrArg (fun q : Place => (q.getLastD []).length) h
  simp only [sibling, List.getLastD_concat, List.length_append] at hlast
  have hlength : (".lastmark.tmp" : Text).length = 13 := by decide
  omega

theorem fileName_of_segments (h : path.splitOn '/' = init ++ [name]) : fileName path = name := by
  rw [fileName, h, List.getLastD_concat]

/-- A name below the root. -/
theorem locate_join_root (hname : '/' ∉ name) :
    t.locate (FileTree.join ['/'] name) = t.walk [] [name] := by
  have hhead : name.head? ≠ some '/' := fun h => hname (List.mem_of_mem_head? h)
  have hjoin : FileTree.join ['/'] name = '/' :: name := by
    rw [FileTree.join, if_neg (by simp [hhead]), List.getLast?_singleton, if_pos rfl,
      List.singleton_append]
  rw [hjoin, locate, List.splitOn_eq_singleton hname]

/-- A name by itself. -/
theorem locate_join_nil (hne : name ≠ []) (hname : '/' ∉ name) :
    t.locate (FileTree.join [] name) = t.walk t.current [name] := by
  have hhead : name.head? ≠ some '/' := fun h => hname (List.mem_of_mem_head? h)
  rw [FileTree.join, if_pos (.inr rfl), locate_eq hne, origin, if_neg hhead,
    List.splitOn_eq_singleton hname]

/-- A name below joined segments that end with a name. -/
theorem join_joinSegments {front : List Text} {last : Text} (hlast : last ≠ [])
    (hslash : '/' ∉ last) (hname : '/' ∉ name) :
    FileTree.join (joinSegments (front ++ [last])) name =
      joinSegments (front ++ [last] ++ [name]) := by
  have hend : (joinSegments (front ++ [last])).getLast? = last.getLast? :=
    getLast?_joinSegments hlast
  have hne : joinSegments (front ++ [last]) ≠ [] := by
    intro hnil
    rw [hnil] at hend
    exact hlast (List.getLast?_eq_none_iff.1 hend.symm)
  have hhead : name.head? ≠ some '/' := fun h => hname (List.mem_of_mem_head? h)
  have hlast' : last.getLast? ≠ some '/' := fun h => hslash (List.mem_of_getLast? h)
  have hsegments : front ++ [last] ≠ [] := by simp
  have hplain : ¬ (name.head? = some '/' ∨ joinSegments (front ++ [last]) = []) := by
    rintro (h | h)
    · exact hhead h
    · exact hne h
  rw [FileTree.join, if_neg hplain, hend, if_neg hlast', joinSegments_snoc hsegments]
  exact List.append_assoc ..

/-- Joined segments are walked one by one. -/
theorem locate_joinSegments {segments others : List Text} {first : Text} (hsegments : segments ≠ [])
    (hothers : others ≠ []) (hslash : ∀ s ∈ first :: segments, '/' ∉ s) :
    t.locate (joinSegments (first :: segments)) =
      t.walk (t.origin (joinSegments (first :: others))) (first :: segments) := by
  have hne : joinSegments (first :: segments) ≠ [] := by
    rw [joinSegments_cons hsegments]
    simp
  have hsplit : (joinSegments (first :: segments)).splitOn '/' = first :: segments :=
    List.splitOn_intercalate '/' hslash (List.cons_ne_nil _ _)
  rw [locate_eq hne, hsplit, origin, origin, head?_joinSegments hsegments,
    head?_joinSegments hothers]

/-- A name below joined segments is found from where every longer path with these segments starts. -/
theorem locate_join_joinSegments {front more : List Text} {last : Text} (hlast : last ≠ [])
    (hslash : ∀ s ∈ front ++ [last], '/' ∉ s) (hname : '/' ∉ name) (hmore : more ≠ []) :
    t.locate (FileTree.join (joinSegments (front ++ [last])) name) =
      t.walk (t.origin (joinSegments (front ++ [last] ++ more))) (front ++ [last] ++ [name]) := by
  rw [join_joinSegments hlast (hslash last (by simp)) hname]
  obtain ⟨first, others, hfirst⟩ := List.exists_cons_of_ne_nil (List.append_ne_nil_of_right_ne_nil
    front (List.cons_ne_nil last []))
  rw [hfirst] at hslash ⊢
  have hall : ∀ s ∈ (first :: others) ++ [name], '/' ∉ s :=
    List.forall_mem_append.2 ⟨hslash, by simpa using hname⟩
  exact locate_joinSegments (by simp) (by simp [hmore]) hall

/-- **The path for the first write** leads where the segments in front of the last one lead, and from
    there on by another name. -/
theorem locate_temporary_eq (hsegments : path.splitOn '/' = init ++ [name]) :
    t.locate (temporary path) =
      t.walk (t.origin path) (trimSegments init ++ [name ++ ".lastmark.tmp"]) := by
  have hpath : joinSegments (init ++ [name]) = path := by
    rw [← hsegments]
    exact List.intercalate_splitOn '/'
  have hslash : ∀ s ∈ init ++ [name], '/' ∉ s := by
    intro s hs
    rw [← hsegments] at hs
    exact Text.not_mem_of_mem_splitOn hs
  obtain ⟨hinit, hname⟩ := List.forall_mem_append.1 hslash
  generalize htmp : name ++ (".lastmark.tmp" : Text) = tmp
  have htmpslash : '/' ∉ tmp := by
    rw [← htmp, List.mem_append, not_or]
    exact ⟨hname name List.mem_cons_self, by decide⟩
  have htmpne : tmp ≠ [] := by
    rw [← htmp]
    simp
  rw [temporary, fileName_of_segments hsegments, htmp, parent, hsegments, List.dropLast_concat]
  rcases trimSegments_cases init with hnil | ⟨front, last, htrim, hlast⟩
  · rw [hnil, List.nil_append, origin]
    by_cases habsolute : path.head? = some '/'
    · -- the document lies at the root
      have hhead : (path.head? == some '/') = true := beq_iff_eq.2 habsolute
      simp only [List.isEmpty_nil, hhead, Bool.and_self, if_true]
      rw [locate_join_root htmpslash, if_pos habsolute]
    · -- the document lies in the current directory
      have hhead : (path.head? == some '/') = false := beq_eq_false_iff_ne.2 habsolute
      simp only [List.isEmpty_nil, hhead, Bool.and_false, Bool.false_eq_true, if_false]
      rw [List.intercalate_nil, locate_join_nil htmpne htmpslash, if_neg habsolute]
  · obtain ⟨trimmed, hsplit, -⟩ := exists_trimSegments init
    have hinner : ∀ s ∈ front ++ [last], '/' ∉ s := fun s hs =>
      hinit s (by rw [hsplit, htrim]; exact List.mem_append_left _ hs)
    have hempty : (front ++ [last]).isEmpty = false := by simp
    rw [htrim, hempty]
    simp only [Bool.false_and, Bool.false_eq_true, if_false]
    -- the document lies below the segments that are left, and so does the file beside it
    rw [← hpath, hsplit, htrim, List.append_assoc _ trimmed]
    exact locate_join_joinSegments hlast hinner htmpslash (by simp)

/-- **The file for the first write lies beside the document**. -/
theorem locate_temporary (htree : t.IsTree) {p : Place} {content : Bytes}
    (hlocate : t.locate path = .ok p) (hfile : t.get? p = some (.file content)) :
    p = p.dropLast ++ [fileName path] ∧ t.get? p.dropLast = some .directory ∧
      t.locate (temporary path) = .ok (sibling p) := by
  have hpath : path ≠ [] := by
    rintro rfl
    cases hlocate
  have hsegments : path.splitOn '/' = (path.splitOn '/').dropLast ++ [fileName path] := by
    have hne := List.splitOn_ne_nil '/' path
    rw [fileName, List.getLastD_eq_getLast?, List.getLast?_eq_some_getLast hne, Option.getD_some,
      List.dropLast_concat_getLast]
  have hwalk := hlocate
  rw [locate_eq hpath, hsegments] at hwalk
  obtain ⟨d, hfront, hd, rfl⟩ := exists_name_of_file htree hwalk hfile
  rw [List.dropLast_concat, sibling_snoc, locate_temporary_eq hsegments]
  have hlong : 2 < (fileName path ++ ".lastmark.tmp" : Text).length := by
    have hlength : (".lastmark.tmp" : Text).length = 13 := by decide
    rw [List.length_append]
    omega
  refine ⟨rfl, hd, walk_append_eq_ok_iff.2 ⟨d, ?_, walk_name hd ?_ ?_⟩⟩
  · -- what was trimmed leads nowhere else
    obtain ⟨trimmed, hsplit, hstays⟩ := exists_trimSegments (path.splitOn '/').dropLast
    rw [hsplit] at hfront
    obtain ⟨q, hq, hrest⟩ := walk_append_eq_ok_iff.1 hfront
    rw [eq_of_walk_stays hstays hrest]
    exact hq
  · rintro (h | h)
    · rw [h] at hlong
      cases hlong
    · rw [h] at hlong
      simp at hlong
  · intro h
    rw [h] at hlong
    simp at hlong

end FileStore

end ListeningCharts

import Mathlib.Data.List.TakeWhile

/-!
# Paths as texts

The paths of `ghc::filesystem` on POSIX. A path is kept as a text, in which
separators that follow one another are one; but two at the beginning, before
something printable, are the beginning of a **root name**, `//host`, which ends
before the next separator. A name is appended behind a separator, if the path
has a file name.

For the kernel a path is a list of components, wherever it begins.

There are two readings of a path, and the program uses both. It puts paths
together with the class `path`, which has root names; and it hands the text to
the kernel, which has none. `child_append_ofNative` says when the two agree: a
name that is appended to a directory is the name of an entry of it for the
kernel, unless the directory is a root name, which is what `IsRootName` is for.
In that case the name is put behind the root name without a separator, and makes
another root name of it (`isRootName_append`), and so is an entry of nothing.
-/

namespace FsPath

/-! ## The class `path`

In the order of the library's source, as far as the viewer uses it. A root name
needs something printable behind the two separators, and ends before the next
separator. -/

/-- `std::unique` of the separators. -/
def unique : List UInt8 → List UInt8
  | [] => []
  | [c] => [c]
  | c :: d :: rest => if c = 47 ∧ d = 47 then unique (d :: rest) else c :: unique (d :: rest)

/-- **A path from a text**, by `postprocess_path_with_format`. -/
def ofNative (text : List UInt8) : List UInt8 :=
  match text with
  | 47 :: 47 :: c :: rest => if c ≠ 47 then 47 :: 47 :: unique (c :: rest) else unique text
  | _ => unique text

/-- `std::isprint`. -/
def isPrint (c : UInt8) : Bool := 32 ≤ c && c ≤ 126

/-- `root_name_length`. -/
def rootNameLength (path : List UInt8) : ℕ :=
  match path with
  | 47 :: 47 :: c :: rest =>
    if c ≠ 47 ∧ isPrint c = true then 3 + (rest.takeWhile (· ≠ 47)).length else 0
  | _ => 0

/-- `has_root_directory`. -/
def hasRootDirectory (path : List UInt8) : Bool := path[rootNameLength path]? = some 47

/-- `is_absolute`. -/
def isAbsolute (path : List UInt8) : Bool := hasRootDirectory path

/-- `has_relative_path`. -/
def hasRelativePath (path : List UInt8) : Bool :=
  rootNameLength path + (if hasRootDirectory path = true then 1 else 0) < path.length

/-- `has_filename`: what is behind the last separator is not empty. -/
def hasFilename (path : List UInt8) : Bool := hasRelativePath path && path.getLast? ≠ some 47

/-- `operator/` with a path that is a name: it has a character, and no
separator. -/
def append (path name : List UInt8) : List UInt8 :=
  if (!hasRootDirectory path && isAbsolute path) = true ∨ hasFilename path = true then
    path ++ 47 :: name
  else path ++ name

/-- **The path is a root name and nothing else.** -/
def IsRootName (path : List UInt8) : Prop :=
  0 < rootNameLength path ∧ rootNameLength path = path.length

instance (path : List UInt8) : Decidable (IsRootName path) :=
  inferInstanceAs (Decidable (_ ∧ _))

/-! ## Components

What is between separators, without what is empty. Two texts have the same
components if they differ only in separators that are repeated, or at the end;
and a child is a path with one component more. -/

/-- What is between separators. -/
def split : List UInt8 → List UInt8 × List (List UInt8)
  | [] => ([], [])
  | c :: rest =>
    if c = 47 then ([], (split rest).1 :: (split rest).2) else (c :: (split rest).1, (split rest).2)

/-- **The components of a path.** -/
def components (path : List UInt8) : List (List UInt8) :=
  ((split path).1 :: (split path).2).filter (· ≠ [])

/-- **A path is a child of a directory, under a name.** -/
structure Child (directory path name : List UInt8) : Prop where
  /-- Both are absolute, or both are not. -/
  absolute : path.head? = some 47 ↔ directory.head? = some 47
  /-- It has the directory's components, and one more. -/
  components : components path = components directory ++ [name]

/-- A name that is that of an entry: it has no separator and is none of the two
that every directory has. -/
structure IsName (name : List UInt8) : Prop where
  /-- It is not empty, … -/
  ne_nil : name ≠ []
  /-- … has no separator, … -/
  separator : 47 ∉ name
  /-- … and is not the directory itself … -/
  dot : name ≠ [46]
  /-- … nor the one above it. -/
  dotdot : name ≠ [46, 46]

theorem split_append_slash (front back : List UInt8) :
    split (front ++ 47 :: back)
      = ((split front).1, (split front).2 ++ (split back).1 :: (split back).2) := by
  induction front with
  | nil => rfl
  | cons c front ih =>
    rw [List.cons_append, split, split, ih]
    by_cases hc : c = 47
    · rw [if_pos hc, if_pos hc]
      rfl
    · rw [if_neg hc, if_neg hc]

/-- **A separator parts the components.** -/
theorem components_append_slash (front back : List UInt8) :
    components (front ++ 47 :: back) = components front ++ components back := by
  rw [components, split_append_slash, ← List.cons_append, List.filter_append]
  rfl

theorem components_slash_cons (path : List UInt8) : components (47 :: path) = components path :=
  components_append_slash [] path

theorem split_of_not_mem {name : List UInt8} (h : 47 ∉ name) : split name = (name, []) := by
  induction name with
  | nil => rfl
  | cons c name ih =>
    rw [List.mem_cons, not_or] at h
    rw [split, ih h.2, if_neg (Ne.symm h.1)]

/-- A text without separators is one component. -/
theorem components_of_not_mem {name : List UInt8} (hne : name ≠ []) (h : 47 ∉ name) :
    components name = [name] := by
  rw [components, split_of_not_mem h, List.filter_cons_of_pos (by simpa using hne)]
  rfl

/-- Separators that are left out part nothing. -/
theorem split_unique (text : List UInt8) :
    (split (unique text)).1 = (split text).1
      ∧ (split (unique text)).2.filter (· ≠ []) = (split text).2.filter (· ≠ []) := by
  induction text using unique.induct with
  | case1 => exact ⟨rfl, rfl⟩
  | case2 c => exact ⟨rfl, rfl⟩
  | case3 c d rest h ih =>
    have hunique : unique (c :: d :: rest) = unique (d :: rest) := if_pos h
    obtain ⟨rfl, rfl⟩ := h
    rw [hunique]
    exact ⟨ih.1, ih.2⟩
  | case4 c d rest h ih =>
    have hunique : unique (c :: d :: rest) = c :: unique (d :: rest) := if_neg h
    rw [hunique, split, split]
    by_cases hc : c = 47
    · rw [if_pos hc, if_pos hc]
      refine ⟨rfl, ?_⟩
      rw [List.filter_cons, List.filter_cons, ih.1, ih.2]
    · rw [if_neg hc, if_neg hc]
      exact ⟨congrArg (c :: ·) ih.1, ih.2⟩

theorem components_unique (text : List UInt8) : components (unique text) = components text := by
  obtain ⟨hfirst, hrest⟩ := split_unique text
  rw [components, components, List.filter_cons, List.filter_cons, hfirst, hrest]

theorem head_unique (text : List UInt8) : (unique text).head? = text.head? := by
  induction text using unique.induct with
  | case1 => rfl
  | case2 c => rfl
  | case3 c d rest h ih =>
    have hunique : unique (c :: d :: rest) = unique (d :: rest) := if_pos h
    rw [hunique, ih, h.1, h.2]
    rfl
  | case4 c d rest h ih =>
    have hunique : unique (c :: d :: rest) = c :: unique (d :: rest) := if_neg h
    rw [hunique]
    rfl

/-- **The text of a path has the components it was made from.** -/
theorem components_ofNative (text : List UInt8) :
    components (ofNative text) = components text := by
  unfold ofNative
  split
  · split
    · rw [components_slash_cons, components_slash_cons, components_unique,
        components_slash_cons, components_slash_cons]
    · exact components_unique _
  · exact components_unique _

theorem head_ofNative (text : List UInt8) : (ofNative text).head? = text.head? := by
  unfold ofNative
  split
  · split
    · rfl
    · exact head_unique _
  · exact head_unique _

/-! ## A child

A name is put behind a separator if the path has a file name. If it has none,
the path is empty, ends with a separator, or is a root name
(`cases_of_not_hasFilename`), and only in the last case what comes out is no
child. -/

variable {path name : List UInt8}

/-- Where a name is put behind a separator. -/
theorem append_of_hasFilename (h : hasFilename path = true) :
    append path name = path ++ 47 :: name :=
  if_pos (.inr h)

theorem append_of_not_hasFilename (h : hasFilename path = false) :
    append path name = path ++ name := by
  have hnot : ¬ ((!hasRootDirectory path && isAbsolute path) = true
      ∨ hasFilename path = true) := by
    rw [isAbsolute, h]
    cases hasRootDirectory path <;> decide
  exact if_neg hnot

theorem rootNameLength_le (path : List UInt8) : rootNameLength path ≤ path.length := by
  unfold rootNameLength
  split
  · next c rest =>
    split
    · have hle : (rest.takeWhile (· ≠ 47)).length ≤ rest.length :=
        (List.takeWhile_prefix _).length_le
      rw [List.length_cons, List.length_cons, List.length_cons]
      omega
    · exact Nat.zero_le _
  · exact Nat.zero_le _

/-- **A path without a file name** is empty, ends with a separator, or is a root
name. -/
theorem cases_of_not_hasFilename (h : hasFilename path = false) :
    path = [] ∨ path.getLast? = some 47 ∨ IsRootName path := by
  by_cases hlast : path.getLast? = some 47
  · exact .inr (.inl hlast)
  · rw [hasFilename, Bool.and_eq_false_iff] at h
    have hrelative : hasRelativePath path = false :=
      h.resolve_right (by simpa using hlast)
    have hle := rootNameLength_le path
    rw [hasRelativePath, decide_eq_false_iff_not, Nat.not_lt] at hrelative
    cases hroot : hasRootDirectory path with
    | true =>
      rw [if_pos hroot] at hrelative
      have hget : path[rootNameLength path]? = some 47 := of_decide_eq_true hroot
      have hlt := (List.getElem?_eq_some_iff.mp hget).1
      -- the root directory is the last there is
      rw [List.getLast?_eq_getElem?, show path.length - 1 = rootNameLength path by omega] at hlast
      exact absurd hget hlast
    | false =>
      rw [if_neg (by simp [hroot])] at hrelative
      by_cases hnil : path = []
      · exact .inl hnil
      · have hpos := List.length_pos_iff.mpr hnil
        exact .inr (.inr ⟨by omega, by omega⟩)

/-- **A root name** is two separators and a name, which begins with something
printable. -/
theorem isRootName_iff : IsRootName path ↔
    ∃ c rest, path = 47 :: 47 :: c :: rest ∧ c ≠ 47 ∧ isPrint c = true ∧ 47 ∉ rest := by
  constructor
  · rintro ⟨hpos, hlength⟩
    unfold rootNameLength at hpos
    split at hpos
    · next c rest =>
      split at hpos
      · next hc =>
        have hname : rootNameLength (47 :: 47 :: c :: rest)
            = 3 + (rest.takeWhile (· ≠ 47)).length := if_pos hc
        rw [hname, List.length_cons, List.length_cons, List.length_cons] at hlength
        refine ⟨c, rest, rfl, hc.1, hc.2, fun hmem => ?_⟩
        have hprefix : rest.takeWhile (· ≠ 47) <+: rest := List.takeWhile_prefix _
        have hall : rest.takeWhile (· ≠ 47) = rest := hprefix.eq_of_length (by omega)
        rw [← hall] at hmem
        exact absurd (List.mem_takeWhile_imp hmem) (by decide)
      · exact absurd hpos (Nat.lt_irrefl 0)
    · exact absurd hpos (Nat.lt_irrefl 0)
  · rintro ⟨c, rest, rfl, hc, hprint, hrest⟩
    have hall : rest.takeWhile (· ≠ 47) = rest :=
      List.takeWhile_eq_self_iff.mpr fun d hd =>
        decide_eq_true fun h : d = 47 => hrest (h ▸ hd)
    have hname : rootNameLength (47 :: 47 :: c :: rest)
        = 3 + (rest.takeWhile (· ≠ 47)).length := if_pos ⟨hc, hprint⟩
    rw [hall] at hname
    refine ⟨by omega, hname.trans ?_⟩
    rw [List.length_cons, List.length_cons, List.length_cons]
    omega

/-- It has no separator behind the first two. -/
theorem eq_of_isRootName (h : IsRootName path) :
    ∃ host, path = 47 :: 47 :: host ∧ host ≠ [] ∧ 47 ∉ host := by
  obtain ⟨c, rest, rfl, hc, -, hrest⟩ := isRootName_iff.mp h
  refine ⟨c :: rest, rfl, List.cons_ne_nil _ _, ?_⟩
  rw [List.mem_cons, not_or]
  exact ⟨Ne.symm hc, hrest⟩

theorem not_hasFilename_of_isRootName (h : IsRootName path) : hasFilename path = false := by
  have hroot : hasRootDirectory path = false := by
    rw [hasRootDirectory, h.2, List.getElem?_eq_none (Nat.le_refl _)]
    rfl
  rw [hasFilename, hasRelativePath, h.2, hroot]
  simp

theorem head_append {front : List UInt8} (h : front ≠ []) (back : List UInt8) :
    (front ++ back).head? = front.head? := by
  cases front with
  | nil => exact absurd rfl h
  | cons c front => rfl

theorem child_append (hname : IsName name) (hroot : ¬ IsRootName path) :
    Child path (append path name) name := by
  have hcomponents := components_of_not_mem hname.ne_nil hname.separator
  cases hfile : hasFilename path with
  | true =>
    have hne : path ≠ [] := by
      rintro rfl
      exact absurd hfile (by decide)
    rw [append_of_hasFilename hfile]
    exact { absolute := by rw [head_append hne],
            components := by rw [components_append_slash, hcomponents] }
  | false =>
    rw [append_of_not_hasFilename hfile]
    obtain rfl | hlast | hrootName := cases_of_not_hasFilename hfile
    · have hhead : name.head? ≠ some 47 := fun h => hname.separator (List.mem_of_mem_head? h)
      exact { absolute := iff_of_false hhead nofun, components := hcomponents }
    · obtain ⟨front, rfl⟩ := List.getLast?_eq_some_iff.mp hlast
      have hnil : components ([] : List UInt8) = [] := rfl
      exact { absolute := by rw [head_append (by simp)],
              components := by
                rw [List.append_assoc, List.singleton_append, components_append_slash,
                  components_append_slash, hcomponents, hnil, List.append_nil] }
    · exact absurd hrootName hroot

theorem append_of_isRootName (h : IsRootName path) : append path name = path ++ name :=
  append_of_not_hasFilename (not_hasFilename_of_isRootName h)

/-- **What is appended to a root name makes another one.** -/
theorem isRootName_append (h : IsRootName path) (hname : 47 ∉ name) :
    IsRootName (append path name) := by
  rw [append_of_isRootName h]
  obtain ⟨c, rest, rfl, hc, hprint, hrest⟩ := isRootName_iff.mp h
  exact isRootName_iff.mpr ⟨c, rest ++ name, rfl, hc, hprint,
    fun hmem => (List.mem_append.mp hmem).elim hrest hname⟩

/-- Two names are appended as one. -/
theorem append_append_of_isRootName (h : IsRootName path) (hname : 47 ∉ name)
    (entry : List UInt8) : append (append path name) entry = append path (name ++ entry) := by
  rw [append_of_isRootName (isRootName_append h hname), append_of_isRootName h,
    append_of_isRootName h, List.append_assoc]

/-- It is no child, then. -/
theorem not_child_of_isRootName {text child : List UInt8} (hname : IsName name)
    (hroot : IsRootName (ofNative text)) : ¬ Child text (append (ofNative text) name) child := by
  intro hchild
  obtain ⟨host, hpath, hne, hhost⟩ := eq_of_isRootName hroot
  have hfirst := hchild.components
  have htogether : 47 ∉ host ++ name := fun h =>
    (List.mem_append.mp h).elim hhost hname.separator
  rw [append_of_isRootName hroot, ← components_ofNative text, hpath, List.cons_append,
    List.cons_append, components_slash_cons, components_slash_cons, components_slash_cons,
    components_slash_cons,
    components_of_not_mem (by simp [hne]) htogether, components_of_not_mem hne hhost] at hfirst
  exact absurd (congrArg List.length hfirst) (by simp)

/-- **A name is appended as that of a child, unless the path is a root name.** -/
theorem child_append_ofNative {text : List UInt8} (hname : IsName name)
    (hroot : ¬ IsRootName (ofNative text)) : Child text (append (ofNative text) name) name := by
  obtain ⟨habsolute, hchild⟩ := child_append hname hroot
  rw [head_ofNative] at habsolute
  rw [components_ofNative] at hchild
  exact ⟨habsolute, hchild⟩

/-- A path never is two separators. -/
theorem unique_ne (text rest : List UInt8) : unique text ≠ 47 :: 47 :: rest := by
  induction text using unique.induct generalizing rest with
  | case1 => exact nofun
  | case2 c => exact fun h => absurd (List.cons.inj h).2 nofun
  | case3 c d tail h ih =>
    have hunique : unique (c :: d :: tail) = unique (d :: tail) := if_pos h
    rw [hunique]
    exact ih rest
  | case4 c d tail h ih =>
    have hunique : unique (c :: d :: tail) = c :: unique (d :: tail) := if_neg h
    rw [hunique]
    intro heq
    obtain ⟨hc, htail⟩ := List.cons.inj heq
    have hhead := head_unique (d :: tail)
    rw [htail] at hhead
    exact h ⟨hc, (Option.some.inj hhead).symm⟩

theorem ofNative_ne (text : List UInt8) : ofNative text ≠ [47, 47] := by
  unfold ofNative
  split
  · next c rest =>
    split
    · intro h
      have hhead := head_unique (c :: rest)
      rw [(List.cons.inj (List.cons.inj h).2).2] at hhead
      exact absurd hhead nofun
    · exact unique_ne _ []
  · exact unique_ne _ []

/-- **A child is no root name**, unless what it is in is one. -/
theorem not_isRootName_append {text : List UInt8} (hname : IsName name)
    (hroot : ¬ IsRootName (ofNative text)) : ¬ IsRootName (append (ofNative text) name) := by
  intro h
  obtain ⟨host, hpath, hne, hhost⟩ := eq_of_isRootName h
  have hnot := ofNative_ne text
  generalize ofNative text = path at hroot hpath hnot
  cases hfile : hasFilename path with
  | true =>
    rw [append_of_hasFilename hfile] at hpath
    -- the separator in front of the name is behind the first two
    match path with
    | [] => exact absurd hfile (by decide)
    | [c] =>
      rw [(List.cons.inj hpath).1] at hfile
      exact absurd hfile (by decide)
    | c :: d :: rest =>
      rw [← (List.cons.inj (List.cons.inj hpath).2).2] at hhost
      exact hhost (List.mem_append_right rest List.mem_cons_self)
  | false =>
    rw [append_of_not_hasFilename hfile] at hpath
    obtain rfl | hlast | hrootName := cases_of_not_hasFilename hfile
    · rw [List.nil_append] at hpath
      exact hname.separator (hpath ▸ List.mem_cons_self)
    · obtain ⟨front, rfl⟩ := List.getLast?_eq_some_iff.mp hlast
      match front with
      | [] =>
        have hrest : name = 47 :: host := (List.cons.inj hpath).2
        exact hname.separator (hrest ▸ List.mem_cons_self)
      | [c] =>
        rw [(List.cons.inj hpath).1] at hnot
        exact hnot rfl
      | c :: d :: rest =>
        rw [← (List.cons.inj (List.cons.inj hpath).2).2] at hhost
        exact hhost (by simp)
    · exact hroot hrootName

end FsPath

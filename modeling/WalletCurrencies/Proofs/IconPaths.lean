import WalletCurrencies.Icon
import WalletCurrencies.Proofs.LowerMarks

/-! Which files an icon can come from. A ticker is put into a path as it is, so it can lead out of the
directory of its style: by a slash at its beginning, which makes a path of its own, or by two dots
before a slash, which go up. Every other ticker stays inside. -/

namespace WalletCurrencies.Icon

inductive Component where
  | root
  | current
  | parent
  | named (name : List Char)
deriving DecidableEq

/-- Slashes in a row count once, and a dot for nothing. -/
def component? : List Char → Option Component
  | [] => none
  | ['.'] => none
  | ['.', '.'] => some .parent
  | name => some (.named name)

/-- Only at the beginning do a slash and a dot count. -/
def origin : List (List Char) → List Component
  | [] :: _ :: _ => [.root]
  | ['.'] :: _ => [.current]
  | _ => []

def components (path : String) : List Component :=
  origin (path.toList.splitOn '/') ++ (path.toList.splitOn '/').filterMap component?

/-- The path leads from the root of the archive into the directory and never up again. -/
structure Inside (directory path : String) : Prop where
  relative : Component.root ∉ components path
  first : (components path).head? = some (.named directory.toList)
  descends : Component.parent ∉ components path

/-- Nothing outside of the directory is asked for or returned. -/
structure AsksInside (directory : String) (icon : Option (String → Bool) → Icon) : Prop where
  returned : ∀ holds path, icon holds = .archived path → Inside directory path
  asked : ∀ holds others : String → Bool, (∀ path, Inside directory path → holds path = others path) →
    icon (some holds) = icon (some others)

/-- Whatever is drawn for the ticker, its icon stays in the directory of the style. -/
structure StaysInside (code : String) (style : IconStyle) : Prop where
  path : Inside style.directory (path code style)
  found : ∀ color, AsksInside style.directory fun holds => find holds code color style
  currency : ∀ currency : Currency, currency.code = code →
    AsksInside style.directory fun holds => currency.icon holds style
  listing : ∀ listing : Listing, listing.code = code →
    AsksInside style.directory fun holds => listing.icon holds style

/-- The ticker as the name of a file is absolute or goes up. -/
def Strays (code : String) : Prop :=
  Component.root ∈ components (code ++ ".png") ∨ Component.parent ∈ components (code ++ ".png")

theorem component?_eq_parent_iff {piece : List Char} : component? piece = some .parent ↔ piece = ['.', '.'] := by
  unfold component?
  split <;> simp_all

theorem component?_ne_root (piece : List Char) : component? piece ≠ some .root := by
  unfold component?
  split <;> simp

theorem parent_mem_components_iff {path : String} :
    Component.parent ∈ components path ↔ ['.', '.'] ∈ path.toList.splitOn '/' := by
  have first : Component.parent ∉ origin (path.toList.splitOn '/') := by
    unfold origin
    split <;> simp
  simp only [components, List.mem_append, first, false_or, List.mem_filterMap, component?_eq_parent_iff,
    exists_eq_right]

theorem origin_slash (rest : List Char) : origin (('/' :: rest).splitOn '/') = [.root] := by
  have split := List.splitOn_append_cons_self_of_not_mem (List.not_mem_nil (a := '/')) rest
  rw [List.nil_append] at split
  rw [split]
  cases more : rest.splitOn '/' with
  | nil => exact absurd more (List.splitOn_ne_nil '/' rest)
  | cons => rfl

theorem root_not_mem_origin {text : List Char} (relative : text.head? ≠ some '/') :
    Component.root ∉ origin (text.splitOn '/') := by
  cases text with
  | nil => simp [origin]
  | cons c rest =>
    have differs : ¬ (c == '/') = true := by simpa using relative
    rw [List.splitOn_cons_eq_if_modifyHead, if_neg differs]
    cases more : rest.splitOn '/' with
    | nil => exact absurd more (List.splitOn_ne_nil '/' rest)
    | cons piece pieces =>
      rw [List.modifyHead_cons]
      unfold origin
      split <;> simp_all

theorem root_mem_components_iff {path : String} :
    Component.root ∈ components path ↔ path.toList.head? = some '/' := by
  have later : Component.root ∉ (path.toList.splitOn '/').filterMap component? := by
    simp [component?_ne_root]
  rw [components, List.mem_append, or_iff_left later]
  constructor
  · exact fun member => Classical.byContradiction fun relative => root_not_mem_origin relative member
  · intro slash
    obtain ⟨rest, text⟩ := List.head?_eq_some_iff.mp slash
    rw [text, origin_slash]
    exact List.mem_singleton_self _

theorem strays_iff {code : String} : Strays code ↔
    (Text.lowercase code ++ ".png").toList.head? = some '/' ∨
      ['.', '.'] ∈ (Text.lowercase code ++ ".png").toList.splitOn '/' := by
  have same := (Text.sameMarks_lowerAfter [] code.toList).append ".png".toList
  have lowered : (Text.lowercase code ++ ".png").toList = Text.lowerAfter [] code.toList ++ ".png".toList := by
    simp [Text.lowercase]
  rw [Strays, root_mem_components_iff, parent_mem_components_iff, String.toList_append, lowered,
    same.head?_eq_slash_iff]
  exact or_congr_right (same.dots_mem_splitOn_iff ⟨List.not_mem_nil, List.not_mem_nil, Or.inl rfl⟩)

theorem components_directory (style : IconStyle) (file : String) :
    components (style.directory ++ "/" ++ file)
      = .named style.directory.toList :: (file.toList.splitOn '/').filterMap component? := by
  have whole : '/' ∉ style.directory.toList := by cases style <;> decide
  have split : (style.directory ++ "/" ++ file).toList.splitOn '/'
      = style.directory.toList :: file.toList.splitOn '/' := by
    rw [String.toList_append, String.toList_append, List.append_assoc]
    exact List.splitOn_append_cons_self_of_not_mem whole file.toList
  rw [components, split]
  cases style <;> rfl

theorem inside_path_iff {code : String} {style : IconStyle} :
    Inside style.directory (path code style) ↔ ¬ Strays code := by
  rw [strays_iff, path]
  constructor
  · intro inside strays
    split at inside
    next absolute => exact inside.relative (root_mem_components_iff.mpr absolute)
    next relative =>
      have climbs := strays.resolve_left relative
      have up := inside.descends
      rw [components_directory] at up
      exact up (List.mem_cons_of_mem _ (List.mem_filterMap.mpr ⟨_, climbs, rfl⟩))
  · intro stays
    obtain ⟨relative, level⟩ := not_or.mp stays
    rw [if_neg relative]
    have descends :
        Component.parent ∉ ((Text.lowercase code ++ ".png").toList.splitOn '/').filterMap component? := by
      simpa [component?_eq_parent_iff] using level
    refine ⟨?_, ?_, ?_⟩
    · simp [components_directory, component?_ne_root]
    · rw [components_directory, List.head?_cons]
    · rw [components_directory]
      simpa using descends

/-- The archive is asked about one path. -/
theorem asksInside_find {directory code : String} {color : Color} {style : IconStyle}
    (inside : Inside directory (path code style)) : AsksInside directory fun holds => find holds code color style where
  returned holds found archived := by
    unfold find at archived
    split at archived
    next =>
      split at archived
      next => exact Icon.archived.inj archived ▸ inside
      next => cases archived
    next => cases archived
  asked holds others agree := by simp only [find, agree _ inside]

theorem staysInside_iff_not_strays (code : String) (style : IconStyle) :
    StaysInside code style ↔ ¬ Strays code := by
  constructor
  · exact fun stays => inside_path_iff.mp stays.path
  · intro level
    have inside : Inside style.directory (path code style) := inside_path_iff.mpr level
    exact {
      path := inside
      found := fun _ => asksInside_find inside
      currency := by
        rintro currency rfl
        exact asksInside_find inside
      listing := by
        rintro listing rfl
        exact asksInside_find inside }

/-- One ticker goes up from its directory and another one names a path from the root. -/
theorem not_staysInside_straying :
    path "../../Keys" .square = "white-square-bg/../../keys.png" ∧
      find (some fun path => path = "white-square-bg/../../keys.png") "../../Keys" .black .square
        = .archived "white-square-bg/../../keys.png" ∧
      ¬ StaysInside "../../Keys" .square ∧
      path "/etc/Icon" .plain = "/etc/icon.png" ∧ ¬ StaysInside "/etc/Icon" .plain := by
  have up : Component.parent ∈ components (path "../../Keys" .square) := by decide
  have absolute : Component.root ∈ components (path "/etc/Icon" .plain) := by decide
  exact ⟨by decide, by decide, fun stays => stays.path.descends up, by decide,
    fun stays => stays.path.relative absolute⟩

end WalletCurrencies.Icon

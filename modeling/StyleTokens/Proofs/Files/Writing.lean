import Mathlib.Logic.Function.Basic
import StyleTokens.Files.Tree
import StyleTokens.Proofs.Value.Entries

/-! Writing a file. A tree is seen as a map from names to what stands at their end. A write that goes
through changes this map at one place, where a path leads to a file or to a free name in a directory,
and reading the same path gives back what was written. A write that fails changes nothing. -/

set_option autoImplicit false

namespace StyleTokens

/-! ### Steps that may fail -/

section

variable {ε α β : Type}

theorem ok_of_bind {first : Except ε α} {next : α → Except ε β} {result : β}
    (went : (first >>= next) = .ok result) :
    ∃ middle, first = .ok middle ∧ next middle = .ok result := by
  cases first with
  | error error => cases went
  | ok middle => exact ⟨middle, rfl, went⟩

theorem ok_of_guard {fails : Prop} [Decidable fails] {error : ε} {next : Unit → Except ε α}
    {result : α}
    (went : (if fails then (.error error : Except ε Unit) >>= next else next ()) = .ok result) :
    ¬fails ∧ next () = .ok result := by
  split at went
  · cases went
  · next passes => exact ⟨passes, went⟩

end

/-! ### Trees as maps -/

namespace FileTree

/-- What stands at the end of names: a file with its contents, or a directory. -/
inductive Kind where
  | file (contents : ByteArray)
  | directory

def kind : FileTree → Kind
  | .file contents => .file contents
  | .directory _ => .directory

/-- A tree as a map. -/
def kind? (tree : FileTree) (names : List String) : Option Kind := (tree.at? names).map kind

variable {tree : FileTree} {name : String} {names parent : List String}

theorem kind?_cons (tree : FileTree) (name : String) (names : List String) :
    tree.kind? (name :: names) = (tree.child? name).bind fun child => child.kind? names := by
  rw [kind?, at?, Option.map_bind]
  rfl

theorem at?_append (tree : FileTree) (first second : List String) :
    tree.at? (first ++ second) = (tree.at? first).bind fun reached => reached.at? second := by
  induction first generalizing tree with
  | nil => rfl
  | cons name first ih =>
    rw [List.cons_append, at?, at?, Option.bind_assoc]
    exact congrArg (Option.bind _) (funext ih)

theorem child?_put (new : FileTree) (name : String) (names : List String)
    (entries : List (String × FileTree)) (key : String) :
    (put new (name :: names) (.directory entries)).child? key =
      if key = name then some (put new names ((entries.lookup name).getD empty))
      else entries.lookup key := by
  rw [put, child?, lookup_setEntry]

theorem kind?_put_nil (new : FileTree) (name : String) (names : List String)
    (entries : List (String × FileTree)) :
    (put new (name :: names) (.directory entries)).kind? [] = some .directory := rfl

theorem kind?_put_cons (new : FileTree) (name : String) (below : List String)
    (entries : List (String × FileTree)) (key : String) (names : List String) :
    (put new (name :: below) (.directory entries)).kind? (key :: names) =
      if key = name then (put new below ((entries.lookup name).getD empty)).kind? names
      else (FileTree.directory entries).kind? (key :: names) := by
  rw [kind?_cons, child?_put]
  split
  · rfl
  · rw [kind?_cons]
    rfl

theorem kind?_file_cons (contents : ByteArray) (name : String) (names : List String) :
    (FileTree.file contents).kind? (name :: names) = none := rfl

/-- Nothing stands beneath a place where there is no directory. -/
theorem kind?_beneath (free : tree.kind? names ≠ some .directory) (name : String)
    (below : List String) : tree.kind? (names ++ name :: below) = none := by
  rw [kind?] at free
  rw [kind?, at?_append]
  cases found : tree.at? names with
  | none => rfl
  | some reached =>
    cases reached with
    | file contents => rfl
    | directory entries =>
      rw [found] at free
      exact absurd rfl free

/-- A file that is put into a directory, where no directory stands, is all that changes. -/
theorem kind?_put_apply (contents : ByteArray) (inside : tree.kind? parent = some .directory)
    (free : tree.kind? (parent ++ [name]) ≠ some .directory) :
    (put (.file contents) (parent ++ [name]) tree).kind? names =
      if names = parent ++ [name] then some (.file contents) else tree.kind? names := by
  -- down the names of the directory; each level has one entry in which something may change
  induction parent generalizing tree names with
  | nil =>
    cases tree with
    | file => cases inside
    | directory entries =>
      rcases names with _ | ⟨key, names⟩
      · exact kind?_put_nil ..
      · rw [List.nil_append, kind?_put_cons, put]
        by_cases same : key = name
        · subst same
          rcases names with _ | ⟨next, names⟩
          · rw [if_pos rfl, if_pos rfl]
            rfl
          · rw [if_pos rfl, if_neg (by simp), kind?_file_cons]
            exact (kind?_beneath free next names).symm
        · rw [if_neg same, if_neg (by simp [same])]
  | cons above parent ih =>
    cases tree with
    | file => cases inside
    | directory entries =>
      rcases names with _ | ⟨key, names⟩
      · exact kind?_put_nil ..
      · rw [List.cons_append, kind?_put_cons]
        rw [List.cons_append, kind?_cons] at free
        rw [kind?_cons] at inside
        obtain ⟨child, found, inside⟩ := Option.bind_eq_some_iff.1 inside
        rw [found, Option.bind_some] at free
        have found : entries.lookup above = some child := found
        rw [found, Option.getD_some, ih inside free]
        by_cases same : key = above
        · subst same
          rw [if_pos rfl, kind?_cons]
          simp [child?, found]
        · rw [if_neg same, if_neg (by simp [same])]

theorem kind?_put (contents : ByteArray) (inside : tree.kind? parent = some .directory)
    (free : tree.kind? (parent ++ [name]) ≠ some .directory) :
    (put (.file contents) (parent ++ [name]) tree).kind? =
      Function.update tree.kind? (parent ++ [name]) (some (.file contents)) := by
  funext names
  rw [kind?_put_apply contents inside free, Function.update_apply]

end FileTree

/-! ### Paths to files -/

namespace Path

/-- Only a text that ends with the mark has nothing after its last mark. -/
theorem getLast?_splitOn {mark : Char} {text : List Char}
    (empty : (text.splitOn mark).getLast? = some []) :
    text = [] ∨ text.getLast? = some mark := by
  by_cases here : mark ∈ text
  · right
    -- what stands before the last mark is `before`, and `after` has no mark
    obtain ⟨after, before, whole, none⟩ := List.eq_append_cons_of_mem (List.mem_reverse.2 here)
    rw [List.reverse_eq_iff, List.reverse_append, List.reverse_cons, List.append_assoc] at whole
    have last : after.reverse.splitOn mark = [after.reverse] :=
      List.splitOn_eq_singleton (by simpa using none)
    rw [whole, List.singleton_append, List.splitOn_append_cons_self, last] at empty
    obtain rfl : after = [] := by simpa using empty
    simp [whole]
  · left
    simpa [List.splitOn_eq_singleton here] using empty

theorem names_of_last {path : String} (filled : path ≠ "")
    (file : path.toList.getLast? ≠ some '/') :
    ∃ above name, names path = above ++ [name] ∧ name ≠ "" := by
  rcases List.eq_nil_or_concat (path.toList.splitOn '/') with none | ⟨above, name, whole⟩
  · exact absurd none (List.splitOn_ne_nil '/' path.toList)
  · refine ⟨above.map String.ofList, String.ofList name, by rw [names, whole]; simp, ?_⟩
    intro empty
    obtain rfl : name = [] := by simpa using empty
    rcases getLast?_splitOn (by rw [whole]; simp : (path.toList.splitOn '/').getLast? = some []) with
      nothing | slash
    · exact filled (String.toList_eq_nil_iff.1 nothing)
    · exact file slash

end Path

namespace Place

open FileTree

variable {place : Place} {root : FileTree} {reached names : List String} {path name : String}

theorem at?_of_directory (here : root.kind? reached = some .directory) :
    ∃ entries, root.at? reached = some (.directory entries) := by
  obtain ⟨tree, found, kind⟩ := Option.map_eq_some_iff.1 here
  cases tree with
  | file contents => cases kind
  | directory entries => exact ⟨entries, found⟩

theorem at?_of_file {contents : ByteArray} (here : root.kind? names = some (.file contents)) :
    root.at? names = some (.file contents) := by
  obtain ⟨tree, found, kind⟩ := Option.map_eq_some_iff.1 here
  cases tree with
  | file contents =>
    cases kind
    exact found
  | directory entries => cases kind

theorem step_of_directory (here : root.kind? reached = some .directory) (name : String) :
    step root reached name =
      if name = "" ∨ name = "." then .ok reached
      else if name = ".." then .ok reached.dropLast
      else if nameLimit < name.utf8ByteSize then .error .nameTooLong
      else if (root.kind? (reached ++ [name])).isSome then .ok (reached ++ [name])
      else .error .notFound := by
  obtain ⟨entries, found⟩ := at?_of_directory here
  have known : (root.kind? (reached ++ [name])).isSome = (entries.lookup name).isSome := by
    rw [kind?, at?_append, found]
    simp [at?, child?]
  rw [step, found, known]

theorem directory_of_step {reached' : List String} (stepped : step root reached name = .ok reached') :
    root.kind? reached = some .directory := by
  unfold step at stepped
  split at stepped
  · next entries found =>
    rw [kind?, found]
    rfl
  · cases stepped
  · cases stepped

/-- A path by which a file can be written: it leads to a directory, and its last name there is that of
a file or of nothing. -/
structure Leads (place : Place) (path : String) (parent : List String) (name : String) : Prop where
  short : ¬pathLimit < path.utf8ByteSize
  filled : path ≠ ""
  names : ∃ above, Path.names path = above ++ [name] ∧
    above.foldlM (step place.root) (place.start path) = .ok parent
  plain : ¬(name = "" ∨ name = ".") ∧ name ≠ ".." ∧ ¬nameLimit < name.utf8ByteSize
  inside : place.root.kind? parent = some .directory
  free : place.root.kind? (parent ++ [name]) ≠ some .directory

/-- The last step to a file: its name is that of a file, or free. -/
theorem free_of_step (inside : root.kind? reached = some .directory)
    (plain : ¬(name = "" ∨ name = ".") ∧ name ≠ "..")
    (found : (match step root reached name with
      | .ok names =>
        match root.at? names with
        | some (.file _) => .ok names
        | _ => .error .isADirectory
      | .error .notFound => .ok (reached ++ [name])
      | .error fault => .error fault) = (.ok names : Except Fault (List String))) :
    names = reached ++ [name] ∧ ¬nameLimit < name.utf8ByteSize ∧
      root.kind? (reached ++ [name]) ≠ some .directory := by
  rw [step_of_directory inside, if_neg plain.1, if_neg plain.2] at found
  by_cases long : nameLimit < name.utf8ByteSize
  · rw [if_pos long] at found
    cases found
  · rw [if_neg long] at found
    cases there : root.kind? (reached ++ [name]) with
    | none =>
      rw [there] at found
      cases found
      exact ⟨rfl, long, nofun⟩
    | some kind =>
      rw [there, Option.isSome_some, if_pos rfl] at found
      dsimp only at found
      split at found
      · next contents file =>
        cases found
        rw [kind?, file] at there
        cases there
        exact ⟨rfl, long, nofun⟩
      · cases found

theorem leads_of_target (found : place.target path = .ok names) :
    ∃ parent name, names = parent ++ [name] ∧ place.Leads path parent name := by
  unfold target at found
  obtain ⟨short, found⟩ := ok_of_guard found
  obtain ⟨filled, found⟩ := ok_of_guard found
  split at found
  · cases found
  · next name above opened =>
    obtain ⟨parent, walked, found⟩ := ok_of_bind found
    obtain ⟨parent', stayed, found⟩ := ok_of_bind found
    obtain ⟨file, found⟩ := ok_of_guard found
    obtain ⟨notSlash, notDots⟩ := not_or.1 file
    obtain ⟨notDot, notUp⟩ := not_or.1 notDots
    -- the path does not end with a slash, so no name was left out at its end
    obtain ⟨above', name', whole, nonempty⟩ := Path.names_of_last filled notSlash
    rw [whole, List.reverse_append, List.reverse_singleton, List.singleton_append,
      List.dropWhile_cons_of_neg (by simpa using nonempty), List.cons.injEq] at opened
    obtain ⟨rfl, rfl⟩ := opened
    rw [List.reverse_reverse] at walked
    have inside := directory_of_step stayed
    rw [step_of_directory inside, if_pos (.inr rfl)] at stayed
    cases stayed
    have plain : ¬(name' = "" ∨ name' = ".") := not_or.2 ⟨nonempty, notDot⟩
    obtain ⟨rfl, long, free⟩ := free_of_step inside ⟨plain, notUp⟩ found
    exact ⟨parent, name', rfl, short, filled, ⟨above', whole, walked⟩, ⟨plain, notUp, long⟩, inside,
      free⟩

/-! ### Writing and reading back -/

/-- Trees in which at least the same names lead somewhere, and at least the same ones to directories. -/
structure Grows (root root' : FileTree) : Prop where
  directory : ∀ names, root.kind? names = some .directory → root'.kind? names = some .directory
  isSome : ∀ names, (root.kind? names).isSome → (root'.kind? names).isSome

theorem Grows.step {root' : FileTree} (grows : Grows root root') {reached' : List String}
    (stepped : step root reached name = .ok reached') : step root' reached name = .ok reached' := by
  have here := directory_of_step stepped
  rw [step_of_directory here] at stepped
  rw [step_of_directory (grows.directory reached here)]
  split at stepped
  · next stays => rw [if_pos stays, stepped]
  · next moves =>
    rw [if_neg moves]
    split at stepped
    · next up => rw [if_pos up, stepped]
    · next down =>
      rw [if_neg down]
      split at stepped
      · cases stepped
      · next short =>
        rw [if_neg short]
        split at stepped
        · next known => rw [if_pos (grows.isSome _ known), stepped]
        · cases stepped

theorem Grows.walk {root' : FileTree} (grows : Grows root root') {reached' : List String}
    (walked : names.foldlM (Place.step root) reached = .ok reached') :
    names.foldlM (Place.step root') reached = .ok reached' := by
  induction names generalizing reached with
  | nil => exact walked
  | cons name names ih =>
    rw [List.foldlM_cons] at walked ⊢
    obtain ⟨next, stepped, walked⟩ := ok_of_bind walked
    rw [grows.step stepped]
    exact ih walked

/-- What a write does to the files of a place: a file at the end of these names has the contents, all
else is as it was, and the path by which it was written leads to it. -/
structure Wrote (place place' : Place) (path contents : String) (names : List String) : Prop where
  kinds : place'.root.kind? =
    Function.update place.root.kind? names (some (.file contents.toUTF8))
  read : place'.read path = .ok contents

theorem walk_concat {above start reached' : List String}
    (walked : above.foldlM (step root) start = .ok reached)
    (stepped : step root reached name = .ok reached') :
    (above ++ [name]).foldlM (step root) start = .ok reached' := by
  rw [List.foldlM_append, walked]
  change [name].foldlM (step root) reached = .ok reached'
  rw [List.foldlM_cons, stepped]
  rfl

theorem fromUTF8?_toUTF8 (text : String) : String.fromUTF8? text.toUTF8 = some text := by
  exact dif_pos text.isValidUTF8

theorem Leads.read {parent : List String} (leads : place.Leads path parent name) {root' : FileTree}
    {contents : String} (grows : Grows place.root root')
    (file : root'.kind? (parent ++ [name]) = some (.file contents.toUTF8)) :
    Place.read ⟨root', place.names⟩ path = .ok contents := by
  obtain ⟨above, whole, walked⟩ := leads.names
  obtain ⟨plain, notUp, short⟩ := leads.plain
  have last : step root' parent name = .ok (parent ++ [name]) := by
    rw [step_of_directory (grows.directory _ leads.inside), if_neg plain, if_neg notUp, if_neg short,
      file, Option.isSome_some, if_pos rfl]
  have opened : Place.opened ⟨root', place.names⟩ path = .ok (parent ++ [name]) := by
    rw [Place.opened, if_neg leads.short, locate, if_neg leads.filled, whole]
    exact walk_concat (grows.walk walked) last
  rw [Place.read, opened]
  simp only [bind, Except.bind, at?_of_file file, fromUTF8?_toUTF8]

/-- Where a file is written there was no directory, so all names lead on as they did. -/
theorem Leads.grows {parent : List String} (leads : place.Leads path parent name)
    (contents : ByteArray) :
    Grows place.root (put (.file contents) (parent ++ [name]) place.root) := by
  have kinds := kind?_put contents leads.inside leads.free
  constructor
  · intro names directory
    have other : names ≠ parent ++ [name] := fun same => leads.free (same ▸ directory)
    rw [kinds, Function.update_of_ne other, directory]
  · intro names known
    rw [kinds]
    by_cases same : names = parent ++ [name]
    · rw [same, Function.update_self, Option.isSome_some]
    · rw [Function.update_of_ne same, known]

theorem wrote_of_write {contents : String} {place' : Place}
    (went : place.write path contents = .ok place') :
    ∃ names, place.target path = .ok names ∧ place.Wrote place' path contents names := by
  obtain ⟨names, found, made⟩ := ok_of_bind went
  obtain ⟨parent, name, rfl, leads⟩ := leads_of_target found
  cases made
  have kinds := kind?_put contents.toUTF8 leads.inside leads.free
  refine ⟨_, found, kinds, leads.read (leads.grows _) ?_⟩
  rw [kinds, Function.update_self]

theorem root_of_enter {place' : Place} (entered : place.enter path = .ok place') :
    place'.root = place.root := by
  obtain ⟨names, -, entered⟩ := ok_of_bind entered
  split at entered
  · cases entered
    rfl
  · cases entered

end Place
end StyleTokens

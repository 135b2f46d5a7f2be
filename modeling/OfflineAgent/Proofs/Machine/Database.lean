import OfflineAgent.Machine.Database
import OfflineAgent.Proofs.Store.Catalog

/-!
# A database that is opened again

The database of the stores at a path answers every sequence of calls as the catalog does, however
often it is opened again in between.
-/

namespace OfflineAgent.Machine

open Store (Call Catalog Key Represents)

namespace FileTree

section

variable {tree after other : FileTree} {location start : Location} {node : FileNode}
  {names : List String} {path : String}

/-! ### Directories stay -/

/-- Every directory of one tree is one of the other, and relative paths start at the same place. -/
structure Extends (tree other : FileTree) : Prop where
  start : other.workingDirectory = tree.workingDirectory
  directories : ∀ location, tree.node? location = some .directory →
    other.node? location = some .directory

theorem Extends.refl (tree : FileTree) : tree.Extends tree :=
  ⟨rfl, fun _ hnode => hnode⟩

theorem Extends.trans {last : FileTree} (first : tree.Extends other) (second : other.Extends last) :
    tree.Extends last :=
  ⟨second.start.trans first.start, fun location hnode =>
    second.directories location (first.directories location hnode)⟩

theorem node?_put_self (hlocation : location ≠ []) :
    (tree.put location node).node? location = some node := by
  have hempty : location.isEmpty = false := by simpa using hlocation
  have hrest : (tree.nodes.filter (·.1 ≠ location)).find? (·.1 = location) = none := by
    rw [List.find?_eq_none]
    intro found hmem
    simpa using (List.mem_filter.mp hmem).2
  simp only [node?, hempty, put, List.find?_append, hrest]
  simp

theorem node?_put_of_ne {found : Location} (hne : found ≠ location) :
    (tree.put location node).node? found = tree.node? found := by
  have hlast : [(location, node)].find? (·.1 = found) = none := by
    simpa using hne.symm
  have hfront : (tree.nodes.filter (·.1 ≠ location)).find? (·.1 = found) =
      tree.nodes.find? (·.1 = found) := by
    refine List.find?_filter_of_imp fun entry hentry => ?_
    obtain rfl : entry.1 = found := by simpa using hentry
    simpa using hne
  simp only [node?, put, List.find?_append, hlast, Option.or_none, hfront]

theorem extends_put (hnode : tree.node? location ≠ some .directory) :
    tree.Extends (tree.put location node) := by
  refine ⟨rfl, fun found hfound => ?_⟩
  have hne : found ≠ location := by
    rintro rfl
    exact hnode hfound
  rwa [node?_put_of_ne hne]

theorem Extends.step (grows : tree.Extends other) {name : String} {next : Location}
    (hstep : tree.step location name = .ok next) : other.step location name = .ok next := by
  unfold FileTree.step at hstep ⊢
  split at hstep
  · rename_i hnode
    rw [grows.directories location hnode]
    exact hstep
  · cases hstep
  · cases hstep

theorem Extends.locate (grows : tree.Extends other) (hlocate : tree.locate path = .ok location) :
    other.locate path = .ok location := by
  have hfollow : ∀ (names : List String) (from' : Location),
      names.foldlM tree.step from' = .ok location →
        names.foldlM other.step from' = .ok location := by
    intro names
    induction names with
    | nil => exact fun _ hfound => hfound
    | cons name names ih =>
        intro from' hfound
        rw [List.foldlM_cons] at hfound ⊢
        cases hstep : tree.step from' name with
        | error fault =>
            rw [hstep] at hfound
            cases hfound
        | ok next =>
            rw [hstep] at hfound
            rw [grows.step hstep]
            exact ih next hfound
  unfold FileTree.locate at hlocate ⊢
  split at hlocate
  · cases hlocate
  · rename_i hpath
    rw [if_neg hpath]
    have hbase : other.base path = tree.base path := by
      rw [base, base, grows.start]
    rw [hbase]
    exact hfollow _ _ hlocate

theorem createFrom_cons {name : String} {next : Location}
    (hstep : tree.step start name = .ok next) :
    tree.createFrom start (name :: names) =
      match tree.node? next with
      | none => (tree.put next .directory).createFrom next names
      | some .directory => tree.createFrom next names
      | some _ => .error (if names.isEmpty then .alreadyThere else .notDirectory) := by
  rw [createFrom, hstep]
  rfl

theorem createFrom_again (hcreate : tree.createFrom start names = .ok after) :
    tree.Extends after ∧
      ∀ other, after.Extends other → other.createFrom start names = .ok other := by
  induction names generalizing tree start with
  | nil =>
      obtain rfl := Except.ok.inj hcreate
      exact ⟨.refl _, fun _ _ => rfl⟩
  | cons name names ih =>
      cases hstep : tree.step start name with
      | error fault =>
          rw [createFrom, hstep] at hcreate
          cases hcreate
      | ok next =>
          rw [createFrom_cons hstep] at hcreate
          have hagain {grown : FileTree} (hgrown : grown.createFrom next names = .ok after)
              (hextends : tree.Extends grown) (hnext : grown.node? next = some .directory) :
              tree.Extends after ∧ ∀ other, after.Extends other →
                other.createFrom start (name :: names) = .ok other := by
            obtain ⟨hafter, hrest⟩ := ih hgrown
            refine ⟨hextends.trans hafter, fun other hother => ?_⟩
            rw [createFrom_cons (((hextends.trans hafter).trans hother).step hstep),
              hother.directories next (hafter.directories next hnext)]
            exact hrest other hother
          cases hnode : tree.node? next with
          | none =>
              rw [hnode] at hcreate
              have hroot : next ≠ [] := by
                rintro rfl
                cases hnode
              exact hagain hcreate (extends_put (by simp [hnode])) (node?_put_self hroot)
          | some node =>
              rw [hnode] at hcreate
              cases node with
              | directory => exact hagain hcreate (.refl tree) hnode
              | file content => cases hcreate
              | database tables => cases hcreate

theorem createDirectories_again (hcreate : tree.createDirectories path = .ok after) :
    tree.Extends after ∧
      ∀ other, after.Extends other → other.createDirectories path = .ok other := by
  unfold createDirectories at hcreate ⊢
  split at hcreate
  · rename_i hempty
    obtain rfl := Except.ok.inj hcreate
    exact ⟨.refl _, fun _ _ => if_pos hempty⟩
  · rename_i hpath
    obtain ⟨hafter, hagain⟩ := createFrom_again hcreate
    refine ⟨hafter, fun other hother => ?_⟩
    rw [if_neg hpath]
    have hbase : other.base path = tree.base path := by
      rw [base, base, (hafter.trans hother).start]
    rw [hbase]
    exact hagain other hother

/-! ### Opening -/

/-- The path leads to a database in the tree, and everything on the way is there. -/
structure Holds (tree : FileTree) (path : String) (location : Location) (tables : Store.Tables) :
    Prop where
  named : ¬(path.isEmpty || path = ":memory:")
  created : ∀ around, parentPath? path = some around → tree.createDirectories around = .ok tree
  located : tree.locate path = .ok location
  stored : tree.node? location = some (.database tables)

variable {tables written : Store.Tables} {files : FileTree} {database : Database}

theorem Holds.put (holds : tree.Holds path location tables) (written : Store.Tables) :
    (tree.put location (.database written)).Holds path location written := by
  have hroot : location ≠ [] := by
    rintro rfl
    cases holds.stored
  have hextends : tree.Extends (tree.put location (.database written)) :=
    extends_put (by simp [holds.stored])
  refine ⟨holds.named, fun around haround => ?_, hextends.locate holds.located,
    node?_put_self hroot⟩
  exact (createDirectories_again (holds.created around haround)).2 _ hextends

/-- Opening a database once the directories around it are there. -/
def openThere (tree : FileTree) (path : String) : Except DatabaseFault (Database × FileTree) :=
  if path.isEmpty || path = ":memory:" then .ok (⟨none, .empty⟩, tree)
  else
    match tree.locate path with
    | .error _ => .error (.unopenable path)
    | .ok location => (tree.tablesAt location path).map fun tables =>
      (⟨some location, tables⟩, tree.put location (.database tables))

theorem openDatabase_of_none (hparent : parentPath? path = none) :
    tree.openDatabase path = tree.openThere path := by
  unfold FileTree.openDatabase openThere
  rw [hparent]
  simp only [bind, Except.bind, pure, Except.pure]
  split
  · rfl
  · cases tree.locate path with
    | error fault => rfl
    | ok location => cases htables : tree.tablesAt location path <;> simp [htables] <;> rfl

theorem openDatabase_of_some {around : String} (hparent : parentPath? path = some around) :
    tree.openDatabase path =
      match tree.createDirectories around with
      | .error fault => .error (.directory fault)
      | .ok tree => tree.openThere path := by
  unfold FileTree.openDatabase openThere
  rw [hparent]
  cases hcreate : tree.createDirectories around with
  | error fault =>
      simp only [hcreate, Except.mapError, bind, Except.bind]
  | ok tree =>
      simp only [hcreate, Except.mapError, bind, Except.bind, pure, Except.pure]
      split
      · rfl
      · cases tree.locate path with
        | error fault => rfl
        | ok location => cases htables : tree.tablesAt location path <;> simp [htables] <;> rfl

/-- A database that lies in the tree is opened as it is. -/
theorem Holds.openDatabase (holds : tree.Holds path location tables) :
    tree.openDatabase path =
      .ok (⟨some location, tables⟩, tree.put location (.database tables)) := by
  have hthere : tree.openThere path =
      .ok (⟨some location, tables⟩, tree.put location (.database tables)) := by
    have htables : tree.tablesAt location path = .ok tables := by
      rw [tablesAt, holds.stored]
    rw [openThere, if_neg holds.named, holds.located]
    simp only [htables]
    rfl
  cases hparent : parentPath? path with
  | none => rw [openDatabase_of_none hparent, hthere]
  | some around =>
      rw [openDatabase_of_some hparent, holds.created around hparent]
      exact hthere

theorem holds_of_tablesAt (hnamed : ¬(path.isEmpty || path = ":memory:"))
    (hcreated : ∀ around, parentPath? path = some around → ∀ other, tree.Extends other →
      other.createDirectories around = .ok other)
    (hlocate : tree.locate path = .ok location)
    (htables : tree.tablesAt location path = .ok tables) :
    (tree.put location (.database tables)).Holds path location tables := by
  have hnode : tree.node? location ≠ some .directory := by
    intro hnode
    rw [tablesAt, hnode] at htables
    cases htables
  have hroot : location ≠ [] := by
    rintro rfl
    exact hnode rfl
  have hextends : tree.Extends (tree.put location (.database tables)) := extends_put hnode
  exact ⟨hnamed, fun around haround => hcreated around haround _ hextends, hextends.locate hlocate,
    node?_put_self hroot⟩

theorem holds_of_openThere
    (hcreated : ∀ around, parentPath? path = some around → ∀ other, tree.Extends other →
      other.createDirectories around = .ok other)
    (hopen : tree.openThere path = .ok (database, files))
    (hlocation : database.location = some location) :
    files.Holds path location database.tables := by
  unfold openThere at hopen
  split at hopen
  · cases hopen
    cases hlocation
  · rename_i hnamed
    cases hlocate : tree.locate path with
    | error fault =>
        rw [hlocate] at hopen
        cases hopen
    | ok found =>
        rw [hlocate] at hopen
        cases htables : tree.tablesAt found path with
        | error fault =>
            simp only [htables] at hopen
            cases hopen
        | ok tables =>
            simp only [htables] at hopen
            cases hopen
            obtain rfl := Option.some.inj hlocation
            exact holds_of_tablesAt hnamed hcreated hlocate htables

theorem holds_of_openDatabase (hopen : tree.openDatabase path = .ok (database, files))
    (hlocation : database.location = some location) :
    files.Holds path location database.tables := by
  cases hparent : parentPath? path with
  | none =>
      rw [openDatabase_of_none hparent] at hopen
      refine holds_of_openThere (fun around haround => ?_) hopen hlocation
      rw [hparent] at haround
      cases haround
  | some around =>
      rw [openDatabase_of_some hparent] at hopen
      cases hcreate : tree.createDirectories around with
      | error fault =>
          rw [hcreate] at hopen
          cases hopen
      | ok grown =>
          rw [hcreate] at hopen
          refine holds_of_openThere (fun other hother => ?_) hopen hlocation
          rw [hparent] at hother
          obtain rfl := Option.some.inj hother
          exact (createDirectories_again hcreate).2

end

end FileTree

/-! ### Using a database -/

/-- What is done with a database: a call, while the clock shows a time, or opening it again. -/
inductive Use where
  | call (call : Call) (now : Moment)
  | reopen

inductive Outcome where
  | answered (call : Call) (answer : Except Store.Failure call.Answer)
  | reopened
  | broken (fault : DatabaseFault)

/-- What comes of using the database at a path, one use after the other. -/
def Database.outcomes (path : String) (database : Database) (files : FileTree) :
    List Use → List Outcome
  | [] => []
  | .call call now :: rest =>
    let next : Database := { database with tables := (call.run now database.tables).2 }
    .answered call (call.run now database.tables).1 :: next.outcomes path (files.save next) rest
  | .reopen :: rest =>
    match files.openDatabase path with
    | .ok (database, files) => .reopened :: database.outcomes path files rest
    | .error fault => .broken fault :: database.outcomes path files rest

/-- What comes of it where the stores are a catalog, which does not change when it is opened. -/
def outcomesOn (catalog : Catalog) : List Use → List Outcome
  | [] => []
  | .call call now :: rest =>
    .answered call (.ok (catalog.run now call).1) :: outcomesOn (catalog.run now call).2 rest
  | .reopen :: rest => .reopened :: outcomesOn catalog rest

def IsUsed (uses : List Use) (key : Key) : Prop :=
  ∃ call now, .call call now ∈ uses ∧ call.key? = some key

section

variable {tree files : FileTree} {path : String} {database : Database} {catalog : Catalog}
  {uses : List Use} {used : Key → Prop}

/-- From related states on, every use of the database has the same outcome as on the catalog. -/
theorem outcomes_of_represents (represents : Represents used database.tables catalog)
    (hfile : database.location = none → .reopen ∉ uses)
    (hholds : ∀ location, database.location = some location →
      files.Holds path location database.tables)
    (hclock : ∀ call now, .call call now ∈ uses → now.IsClock)
    (hused : ∀ key, IsUsed uses key → used key)
    (hhash : ∀ a b, used a → used b → a.hash = b.hash → a = b) :
    database.outcomes path files uses = outcomesOn catalog uses := by
  induction uses generalizing database files catalog with
  | nil => rfl
  | cons use rest ih =>
      cases use with
      | call call now =>
          obtain ⟨hanswer, hafter⟩ := represents.run (hclock call now List.mem_cons_self) call
            (fun key hkey => hused key ⟨call, now, List.mem_cons_self, hkey⟩) hhash
          rw [Database.outcomes, outcomesOn, hanswer]
          congr 1
          refine ih hafter (fun hnone hmem => hfile hnone (List.mem_cons_of_mem _ hmem)) ?_
            (fun call now hmem => hclock call now (List.mem_cons_of_mem _ hmem))
            fun key ⟨call, now, hmem, hkey⟩ =>
              hused key ⟨call, now, List.mem_cons_of_mem _ hmem, hkey⟩
          intro location hlocation
          have hsave : files.save ⟨database.location, (call.run now database.tables).2⟩ =
              files.put location (.database (call.run now database.tables).2) := by
            rw [FileTree.save, show database.location = some location from hlocation]
          rw [hsave]
          exact (hholds location hlocation).put _
      | reopen =>
          obtain ⟨place, tables⟩ := database
          cases place with
          | none => exact absurd List.mem_cons_self (hfile rfl)
          | some location =>
              have holds := hholds location rfl
              rw [Database.outcomes, outcomesOn, holds.openDatabase]
              refine congrArg (Outcome.reopened :: ·) ?_
              refine ih represents (fun hnone => by cases hnone) ?_
                (fun call now hmem => hclock call now (List.mem_cons_of_mem _ hmem))
                fun key ⟨call, now, hmem, hkey⟩ =>
                  hused key ⟨call, now, List.mem_cons_of_mem _ hmem, hkey⟩
              intro other hother
              obtain rfl := Option.some.inj hother
              exact holds.put _

/-- **The database answers as a list of named maps.** -/
theorem outcomes_eq_outcomesOn_empty (hopen : tree.openDatabase path = .ok (database, files))
    (hempty : database.tables = .empty) (hfile : database.location = none → .reopen ∉ uses)
    (hclock : ∀ call now, .call call now ∈ uses → now.IsClock)
    (hhash : ∀ a b, IsUsed uses a → IsUsed uses b → a.hash = b.hash → a = b) :
    database.outcomes path files uses = outcomesOn .empty uses := by
  have represents : Store.Represents (IsUsed uses) database.tables .empty := by
    rw [hempty]
    exact Store.represents_empty
  exact outcomes_of_represents represents hfile
    (fun location hlocation => FileTree.holds_of_openDatabase hopen hlocation) hclock
    (fun _ hkey => hkey) hhash

end

/-- Two stores, of which the older one is deleted and made again after the database was reopened. -/
def reopenedUses (page script : Key) (old new : Response) (now : Moment) : List Use :=
  [.call (.put "static" page old) now, .call (.put "dynamic" page new) now,
    .call (.put "dynamic" script old) now, .reopen, .call (.matchAny page) now,
    .call (.delete "static") now, .reopen, .call (.openStore "static") now,
    .call (.matchAny page) now, .call .names now]

theorem of_mem_reopenedUses {page script : Key} {old new : Response} {now later : Moment}
    {call : Call} (hmem : .call call later ∈ reopenedUses page script old new now) :
    later = now ∧ ∀ key, call.key? = some key → key = page ∨ key = script := by
  simp only [reopenedUses, List.mem_cons, Use.call.injEq, reduceCtorEq, List.not_mem_nil,
    or_false, false_or] at hmem
  rcases hmem with ⟨rfl, rfl⟩ | ⟨rfl, rfl⟩ | ⟨rfl, rfl⟩ | ⟨rfl, rfl⟩ | ⟨rfl, rfl⟩ | ⟨rfl, rfl⟩ |
    ⟨rfl, rfl⟩ | ⟨rfl, rfl⟩ <;> exact ⟨rfl, by simp [Call.key?]⟩

theorem eq_of_hash_reopenedUses {page script : Key} {old new : Response} {now : Moment}
    (hne : page.hash ≠ script.hash) (a b : Key)
    (ha : IsUsed (reopenedUses page script old new now) a)
    (hb : IsUsed (reopenedUses page script old new now) b) (hsame : a.hash = b.hash) : a = b := by
  obtain ⟨call, now, hmem, hkey⟩ := ha
  obtain ⟨other, later, hother, hkey'⟩ := hb
  obtain rfl | rfl := (of_mem_reopenedUses hmem).2 a hkey <;>
    obtain rfl | rfl := (of_mem_reopenedUses hother).2 b hkey'
  · rfl
  · exact absurd hsame hne
  · exact absurd hsame.symm hne
  · rfl

theorem outcomes_of_reopenedUses :
    ∃ database files page script old new now,
      FileTree.openDatabase ⟨[], []⟩ "/stores.db" = .ok (database, files) ∧
        page.hash ≠ script.hash ∧ old ≠ new ∧
        database.outcomes "/stores.db" files (reopenedUses page script old new now) =
          [.answered (.put "static" page old) (.ok ()),
            .answered (.put "dynamic" page new) (.ok ()),
            .answered (.put "dynamic" script old) (.ok ()), .reopened,
            .answered (.matchAny page) (.ok (some ⟨page, old, now⟩)),
            .answered (.delete "static") (.ok true), .reopened,
            .answered (.openStore "static") (.ok ()),
            .answered (.matchAny page) (.ok (some ⟨page, new, now⟩)),
            .answered .names (.ok ["dynamic", "static"])] := by
  have hhash : Key.hash ⟨"GET", "http://a/"⟩ ≠ Key.hash ⟨"GET", "http://a/b"⟩ := by decide +kernel
  have hopen : FileTree.openDatabase ⟨[], []⟩ "/stores.db" =
      .ok (⟨some ["stores.db"], .empty⟩, ⟨[], [(["stores.db"], .database .empty)]⟩) := by cbv
  refine ⟨_, _, ⟨"GET", "http://a/"⟩, ⟨"GET", "http://a/b"⟩, ⟨200, [], .empty⟩,
    ⟨200, [("etag", "\"2\"")], .empty⟩, ⟨2024, 2, 29, 23, 59, 59⟩, hopen, hhash, by simp, ?_⟩
  rw [outcomes_eq_outcomesOn_empty hopen rfl (by simp) ?_ (eq_of_hash_reopenedUses hhash)]
  · rfl
  · intro call now hmem
    obtain ⟨rfl, -⟩ := of_mem_reopenedUses hmem
    decide

end OfflineAgent.Machine

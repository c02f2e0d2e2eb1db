import DeployCheck.Proofs.Repository.BreadthFirst
import DeployCheck.Proofs.Running
import DeployCheck.Repository.Search
import Mathlib.Data.Set.Card

/-! Searches of repositories whose requests do not fail. A search visits the directories below its
root breadth first, then those that the repository's root adds, and it ends however listings lead in
circles. -/
namespace DeployCheck.Repository

open DeployCheck.Action

/-- What a repository holds. -/
structure Contents where
  /-- The text of the file at a path below a directory. -/
  fileAt (directory path : String) : Option String
  entries (directory : String) : List Entry

/-- The directories that a directory lists. -/
def Contents.directories (c : Contents) (directory : String) : List String :=
  ((c.entries directory).filter fun e => e.kind == .directory).map Entry.path

/-- The directories that are listed anywhere. -/
def Contents.listed (c : Contents) : Set String := {d | ∃ parent, d ∈ c.directories parent}

/-- What a search asks for. -/
inductive Query where
  | file (directory path : String)
  | listing (directory : String)
deriving DecidableEq, Repr

/-- What visits to directories ask for that do not hold the path. -/
def visits (path : String) (directories : List String) : List Query :=
  directories.flatMap fun d => [.file d path, .listing d]

/-- No request to the tree fails, and all are answered by what the repository holds; a query takes
one state to another. -/
structure Answers {ε : Type} (tree : Tree (Action ε)) (w : World) (c : Contents)
    (after : State → Query → State) : Prop where
  fileAt (directory path : String) (st : State) : (tree.fileAt directory path).run w st =
    (.ok (c.fileAt directory path), after st (.file directory path))
  entries (directory : String) (st : State) : (tree.entries directory).run w st =
    (.ok (c.entries directory), after st (.listing directory))

/-- The directories that a walk visits if none holds the path. -/
inductive Tour (c : Contents) (name : String) : Walk → List String → Prop
  | done {w : Walk} (ended : w.next? = none) : Tour c name w []
  | visit {w left : Walk} {directory : String} {rest : List String}
    (leaves : w.next? = some (directory, left))
    (tail : Tour c name (left.note name (c.entries directory)) rest) :
    Tour c name w (directory :: rest)

namespace Walk

variable {w left : Walk} {directory : String}

lemma isNew_iff : w.isNew directory = true ↔ directory ∉ w.visited := by simp [isNew]

lemma next?_eq_none_iff :
    w.next? = none ↔ w.queue.filter w.isNew = [] ∧ w.starts.filter w.isNew = [] := by
  unfold next?
  split
  · next h => simp [h]
  · next h => split <;> simp_all

/-- A walk leaves its queue for the first directory that is not visited, or, where there is none,
its starts. -/
lemma next?_eq_some_iff : w.next? = some (directory, left) ↔
    (∃ queue, w.queue.filter w.isNew = directory :: queue ∧
      left = { w with queue, visited := w.visited ++ [directory] }) ∨
    (w.queue.filter w.isNew = [] ∧ ∃ starts, w.starts.filter w.isNew = directory :: starts ∧
      left = { w with queue := [], starts, visited := w.visited ++ [directory] }) := by
  unfold next?
  split
  · next d queue h =>
    simp only [h, Option.some.injEq, Prod.mk.injEq, List.cons.injEq, reduceCtorEq, false_and,
      or_false]
    constructor
    · rintro ⟨rfl,rfl⟩
      exact ⟨queue,⟨rfl,rfl⟩,rfl⟩
    · rintro ⟨_,⟨rfl,rfl⟩,rfl⟩
      exact ⟨rfl,rfl⟩
  · next h =>
    split
    · next d starts hstarts =>
      simp only [h, hstarts, Option.some.injEq, Prod.mk.injEq, List.cons.injEq, reduceCtorEq,
        false_and, exists_false, false_or, true_and]
      constructor
      · rintro ⟨rfl,rfl⟩
        exact ⟨starts,⟨rfl,rfl⟩,rfl⟩
      · rintro ⟨_,⟨rfl,rfl⟩,rfl⟩
        exact ⟨rfl,rfl⟩
    · next hstarts => simp [h, hstarts]

/-- With an empty queue a walk goes on at the first start that is not visited. -/
lemma next?_of_starts (starts visited : List String) (candidate : Option String) :
    next? ⟨[], starts, visited, candidate⟩ =
      match starts.filter fun d => !visited.contains d with
      | directory :: starts => some (directory, ⟨[], starts, visited ++ [directory], candidate⟩)
      | [] => none := rfl

lemma not_mem_visited_of_next? (h : w.next? = some (directory, left)) :
    directory ∉ w.visited ∧ left.visited = w.visited ++ [directory] := by
  rcases next?_eq_some_iff.mp h with ⟨_,hqueue,rfl⟩ | ⟨-,_,hstarts,rfl⟩
  · exact ⟨isNew_iff.mp (List.of_mem_filter (hqueue ▸ List.mem_cons_self)),rfl⟩
  · exact ⟨isNew_iff.mp (List.of_mem_filter (hstarts ▸ List.mem_cons_self)),rfl⟩

lemma candidate_of_next? (h : w.next? = some (directory, left)) : left.candidate = w.candidate := by
  rcases next?_eq_some_iff.mp h with ⟨_,_,rfl⟩ | ⟨_,_,_,rfl⟩ <;> rfl

lemma named_append (name : String) (entries more : List Entry) :
    named name (entries ++ more) = (named name entries).or (named name more) := by
  rw [named, List.find?_append, Option.map_or]
  rfl

lemma unseen_filter_isNew (w : Walk) (directories : List String) :
    unseen w.visited (directories.filter w.isNew) = unseen w.visited directories :=
  unseen_filter fun _ h => isNew_iff.mpr h

end Walk

namespace Tour

variable {c : Contents} {name : String} {w : Walk} {order : List String}

/-- A tour that goes through part of a layer goes through the rest of it, the later layers and what
its starts add. -/
theorem exists_layered (h : Tour c name w order) {todo pending : List String}
    (hqueue : unseen w.visited w.queue = todo ++ pending) :
    ∃ rest later candidate, order = todo ++ rest ++ later ∧
      Layered c.directories (w.visited ++ todo)
        (pending ++ unseen (w.visited ++ todo ++ pending) (todo.flatMap c.directories)) rest ∧
      Tour c name ⟨[], w.starts, w.visited ++ todo ++ rest, candidate⟩ later := by
  induction h generalizing todo pending with
  | @done w ended =>
    obtain ⟨hnone,hstarts⟩ := Walk.next?_eq_none_iff.mp ended
    rw [← w.unseen_filter_isNew, hnone, unseen_nil] at hqueue
    obtain ⟨rfl,rfl⟩ := List.append_eq_nil_iff.mp hqueue.symm
    refine ⟨[],[],w.candidate,rfl,.done _,.done ?_⟩
    rw [List.append_nil, List.append_nil]
    exact Walk.next?_eq_none_iff.mpr ⟨rfl,hstarts⟩
  | @visit w left d ds leaves tail ih =>
    rcases Walk.next?_eq_some_iff.mp leaves with ⟨queue,hd,rfl⟩ | ⟨hnone,starts,hstarts,rfl⟩
    · have hnew : d ∉ w.visited := (Walk.not_mem_visited_of_next? leaves).1
      rw [← w.unseen_filter_isNew, hd, unseen_cons_of_not_mem hnew] at hqueue
      -- the tour behind `d`, for every part of what the queue still holds of the layer
      have hbehind : ∀ {todo pending}, unseen (w.visited ++ [d]) queue = todo ++ pending →
          ∃ rest later candidate, ds = todo ++ rest ++ later ∧
            Layered c.directories (w.visited ++ d :: todo)
              (pending ++ unseen (w.visited ++ d :: todo ++ pending)
                ((d :: todo).flatMap c.directories)) rest ∧
            Tour c name ⟨[], w.starts, w.visited ++ d :: todo ++ rest, candidate⟩ later := by
        intro todo pending hsplit
        have hnext : unseen (w.visited ++ [d]) (queue ++ c.directories d) = todo ++ (pending ++
            unseen (w.visited ++ [d] ++ (todo ++ pending)) (c.directories d)) := by
          rw [unseen_append, hsplit, List.append_assoc]
        obtain ⟨rest,later,candidate,hds,hrest,hlater⟩ := ih hnext
        refine ⟨rest,later,candidate,hds,?_,by simpa [Walk.note] using hlater⟩
        rw [List.flatMap_cons, unseen_append]
        simpa [Walk.note] using hrest
      cases todo with
      | cons d' todo =>
        obtain ⟨rfl,hsplit⟩ := List.cons_eq_cons.mp hqueue
        obtain ⟨rest,later,candidate,rfl,hrest,hlater⟩ := hbehind hsplit
        exact ⟨rest,later,candidate,rfl,hrest,hlater⟩
      | nil =>
        obtain ⟨rest,later,candidate,rfl,hrest,hlater⟩ := hbehind (List.append_nil _).symm
        rw [List.nil_append] at hqueue
        subst hqueue
        rw [List.append_nil, List.nil_append] at hrest
        refine ⟨d :: unseen (w.visited ++ [d]) queue ++ rest,later,candidate,rfl,?_,?_⟩
        · simpa using Layered.layer hrest
        · simpa using hlater
    · rw [← w.unseen_filter_isNew, hnone, unseen_nil] at hqueue
      obtain ⟨rfl,rfl⟩ := List.append_eq_nil_iff.mp hqueue.symm
      refine ⟨[],d :: ds,w.candidate,rfl,.done _,.visit ?_ tail⟩
      rw [List.append_nil, List.append_nil]
      exact Walk.next?_eq_some_iff.mpr (.inr ⟨rfl,starts,hstarts,rfl⟩)

lemma congr {other : Walk} (h : Tour c name w order) (hnext : w.next? = other.next?) :
    Tour c name other order := by
  cases h with
  | done ended => exact .done (hnext ▸ ended)
  | visit leaves tail => exact .visit (hnext ▸ leaves) tail

/-- A tour that stands before a start goes through what this leads to, then on from later starts. -/
theorem exists_from_start {start : String} {starts visited : List String}
    {candidate : Option String}
    (h : Tour c name ⟨[], start :: starts, visited, candidate⟩ order) :
    ∃ first rest candidate, order = first ++ rest ∧
      Layered c.directories visited (unseen visited [start]) first ∧
      Tour c name ⟨[], starts, visited ++ first, candidate⟩ rest := by
  by_cases hstart : start ∈ visited
  · rw [unseen_cons_of_mem hstart]
    refine ⟨[],order,candidate,rfl,.done _,h.congr ?_⟩
    rw [List.append_nil, Walk.next?_of_starts, Walk.next?_of_starts,
      List.filter_cons_of_neg (by simpa using hstart)]
  · have hnext := Walk.next?_of_starts (start :: starts) visited candidate
    rw [List.filter_cons_of_pos (by simpa using hstart)] at hnext
    cases h with
    | done ended => simp [hnext] at ended
    | visit leaves tail =>
      obtain ⟨rfl,rfl⟩ := Prod.mk.inj (Option.some.inj (hnext.symm.trans leaves))
      let layer := unseen (visited ++ [start]) (c.directories start)
      obtain ⟨rest,later,candidate,rfl,hrest,hlater⟩ :=
        tail.exists_layered (List.append_nil layer).symm
      refine ⟨start :: (layer ++ rest),later,candidate,by simp,?_,hlater.congr ?_⟩
      · have hlayer : Layered c.directories (visited ++ [start])
            (unseen (visited ++ [start]) ([start].flatMap c.directories)) (layer ++ rest) := by
          rw [List.flatMap_singleton]
          exact .layer (by simpa [Walk.note] using hrest)
        rw [unseen_cons_of_not_mem hstart]
        exact .layer hlayer
      · -- starts that are left out already are left out behind what was visited since, too
        have hfilter : ((starts.filter fun d => !visited.contains d).filter fun d =>
            !(visited ++ start :: (layer ++ rest)).contains d) =
              starts.filter fun d => !(visited ++ start :: (layer ++ rest)).contains d := by
          rw [List.filter_filter]
          refine List.filter_congr fun d _ => ?_
          by_cases hd : d ∈ visited <;> simp [hd]
        have hvisited :
            visited ++ [start] ++ layer ++ rest = visited ++ start :: (layer ++ rest) := by
          simp
        change Walk.next? ⟨[], starts.filter fun d => !visited.contains d,
          visited ++ [start] ++ layer ++ rest, candidate⟩ = _
        rw [hvisited, Walk.next?_of_starts, Walk.next?_of_starts, hfilter]

lemma of_no_starts {visited : List String} {candidate : Option String}
    (h : Tour c name ⟨[], [], visited, candidate⟩ order) : order = [] := by
  cases h with
  | done => rfl
  | visit leaves => cases leaves

/-- Where finitely many directories are listed, every walk has a tour. -/
theorem exists_of_finite (c : Contents) (name : String) (within : Finset String)
    (hlisted : ∀ d ∈ c.listed, d ∈ within) (w : Walk) (hqueue : ∀ d ∈ w.queue, d ∈ within)
    (hstarts : ∀ d ∈ w.starts, d ∈ within) : ∃ order, Tour c name w order := by
  rcases hnext : w.next? with _ | ⟨d,left⟩
  · exact ⟨[],.done hnext⟩
  · obtain ⟨hnew,hvisited⟩ := Walk.not_mem_visited_of_next? hnext
    have hmem : d ∈ within ∧ (∀ d ∈ left.queue, d ∈ within) ∧ ∀ d ∈ left.starts, d ∈ within := by
      rcases Walk.next?_eq_some_iff.mp hnext with ⟨queue,hd,rfl⟩ | ⟨-,starts,hd,rfl⟩
      · have hsub : ∀ e ∈ d :: queue, e ∈ within := fun e he =>
          hqueue e (List.mem_of_mem_filter (hd ▸ he))
        rw [List.forall_mem_cons] at hsub
        exact ⟨hsub.1,hsub.2,hstarts⟩
      · have hsub : ∀ e ∈ d :: starts, e ∈ within := fun e he =>
          hstarts e (List.mem_of_mem_filter (hd ▸ he))
        rw [List.forall_mem_cons] at hsub
        exact ⟨hsub.1,by simp,hsub.2⟩
    have hless : (within \ (left.note name (c.entries d)).visited.toFinset).card <
        (within \ w.visited.toFinset).card := by
      refine Finset.card_lt_card (Finset.ssubset_iff_of_subset ?_ |>.mpr ⟨d,?_,?_⟩)
      · refine Finset.sdiff_subset_sdiff subset_rfl fun e he => ?_
        simpa [Walk.note, hvisited] using Or.inr (List.mem_toFinset.mp he)
      · simpa using ⟨hmem.1,hnew⟩
      · simp [Walk.note, hvisited]
    obtain ⟨order,horder⟩ := exists_of_finite c name within hlisted (left.note name (c.entries d))
      (by
        intro e he
        rcases List.mem_append.mp he with he | he
        · exact hmem.2.1 e he
        · exact hlisted e ⟨d,he⟩)
      hmem.2.2
    exact ⟨d :: order,.visit hnext horder⟩
termination_by (within \ w.visited.toFinset).card

end Tour

section Run

variable {ε : Type} {tree : Tree (Action ε)} {w : World} {c : Contents}
  {after : State → Query → State} {path : String}

/-- A walk ends at the first directory of its tour that holds the path. -/
theorem run_walk_of_holds (hanswers : Answers tree w c after) {v : Walk}
    {order before later : List String}
    {directory content : String} (h : Tour c (Text.afterLast '/' path) v order)
    (horder : order = before ++ directory :: later) (hbefore : ∀ d ∈ before, c.fileAt d path = none)
    (hholds : c.fileAt directory path = some content) {limit : Nat} (hlimit : before.length ≤ limit)
    (st : State) :
    (walk tree path limit v).run w st =
      (.ok (.text content), (visits path before ++ [Query.file directory path]).foldl after st) := by
  induction h generalizing before limit st with
  | done => simp at horder
  | @visit v left d rest leaves tail ih =>
    rw [walk.eq_def, leaves]
    dsimp only
    rw [run_bind, hanswers.fileAt]
    cases before with
    | nil =>
      obtain ⟨rfl,rfl⟩ := List.cons_eq_cons.mp horder
      rw [hholds]
      rfl
    | cons b before =>
      obtain ⟨rfl,hrest⟩ := List.cons_eq_cons.mp horder
      rw [List.forall_mem_cons] at hbefore
      rw [hbefore.1]
      dsimp only
      rw [run_bind, hanswers.entries]
      cases limit with
      | zero => simp at hlimit
      | succ limit => exact ih hrest hbefore.2 (by simpa using hlimit) _

/-- A walk whose tour leads to no directory with the path takes the file first seen by its name. -/
theorem run_walk_of_missing (hanswers : Answers tree w c after) {v : Walk} {order : List String}
    (h : Tour c (Text.afterLast '/' path) v order) (hmissing : ∀ d ∈ order, c.fileAt d path = none)
    {limit : Nat} (hlimit : order.length ≤ limit) (st : State) :
    (walk tree path limit v).run w st =
      match v.candidate.or (Walk.named (Text.afterLast '/' path) (order.flatMap c.entries)) with
      | none => (.ok .absent, (visits path order).foldl after st)
      | some file => (.ok (((c.fileAt "" file).map Found.text).getD .absent),
          (visits path order ++ [Query.file "" file]).foldl after st) := by
  induction h generalizing limit st with
  | @done v ended =>
    rw [walk.eq_def, ended]
    dsimp only [List.flatMap_nil, Walk.named]
    cases v.candidate with
    | none => rfl
    | some file =>
      dsimp only
      rw [run_bind, hanswers.fileAt]
      rfl
  | @visit v left d rest leaves tail ih =>
    rw [List.forall_mem_cons] at hmissing
    rw [walk.eq_def, leaves]
    dsimp only
    rw [run_bind, hanswers.fileAt, hmissing.1]
    dsimp only
    rw [run_bind, hanswers.entries]
    cases limit with
    | zero => simp at hlimit
    | succ limit =>
      have hcandidate : (left.note (Text.afterLast '/' path) (c.entries d)).candidate.or
          (Walk.named (Text.afterLast '/' path) (rest.flatMap c.entries)) =
            v.candidate.or (Walk.named (Text.afterLast '/' path) ((d :: rest).flatMap c.entries)) := by
        rw [List.flatMap_cons, Walk.named_append, ← Option.or_assoc,
          ← Walk.candidate_of_next? leaves]
        rfl
      rw [← hcandidate]
      exact ih hmissing.2 (by simpa using hlimit) _

end Run

variable {c : Contents}

lemma mem_of_reaches {start d : String} (h : Reaches c.directories start d) :
    d = start ∨ d ∈ c.listed := by
  rcases Relation.ReflTransGen.cases_tail h with rfl | ⟨parent,-,hd⟩
  · exact .inl rfl
  · exact .inr ⟨parent,hd⟩

lemma length_le_of_listed (hfinite : c.listed.Finite) {root : String} {order : List String}
    (hnodup : order.Nodup) (horder : ∀ d ∈ order, d = root ∨ d = "" ∨ d ∈ c.listed) :
    order.length ≤ c.listed.ncard + 2 := by
  have hsub : order.toFinset ⊆ insert root (insert "" hfinite.toFinset) := fun d hd => by
    simpa using horder d (List.mem_toFinset.mp hd)
  calc order.length
      = order.toFinset.card := (List.toFinset_card_of_nodup hnodup).symm
    _ ≤ (insert root (insert "" hfinite.toFinset)).card := Finset.card_le_card hsub
    _ ≤ (insert "" hfinite.toFinset).card + 1 := Finset.card_insert_le _ _
    _ ≤ hfinite.toFinset.card + 1 + 1 := Nat.add_le_add_right (Finset.card_insert_le _ _) 1
    _ = c.listed.ncard + 2 := by rw [Set.ncard_eq_toFinset_card _ hfinite]

/-- The tour of a search takes the directories below its root breadth first, and then those that
the repository's root adds, in the order in which a search from there alone finds them. -/
theorem exists_order (hfinite : c.listed.Finite) (name root : String) :
    ∃ below top, BreadthFirst c.directories root below ∧ BreadthFirst c.directories "" top ∧
      Tour c name (.start root) (below ++ top.filter fun d => d ∉ below) := by
  let within : Finset String := insert root (insert "" hfinite.toFinset)
  have hlisted : ∀ d ∈ c.listed, d ∈ within := fun d hd => by simp [within, hd]
  obtain ⟨order,htour⟩ := Tour.exists_of_finite c name within hlisted (.start root)
    (by simp [Walk.start]) (by simp [Walk.start, within])
  obtain ⟨alone,halone⟩ := Tour.exists_of_finite c name within hlisted ⟨[], [""], [], none⟩
    (by simp) (by simp [within])
  have hempty : ∀ start : String, unseen [] [start] = [start] := fun start =>
    unseen_eq_self (List.nodup_singleton _) (by simp)
  obtain ⟨below,rest,_,rfl,hbelow,hrest⟩ := htour.exists_from_start
  obtain ⟨more,last,_,rfl,hmore,hlast⟩ := hrest.exists_from_start
  obtain ⟨top,_,_,-,htop,-⟩ := halone.exists_from_start
  rw [hempty] at hbelow htop
  obtain rfl := hlast.of_no_starts
  refine ⟨below,top,hbelow,htop,?_⟩
  have hclosed : ∀ a ∈ below, ∀ b ∈ c.directories a, b ∈ below := by
    simpa using hbelow.closed (by simp)
  rwa [← BreadthFirst.eq_filter htop hclosed hmore, ← List.append_nil more]

/-- A search in which no request fails ends as soon as it may visit all directories that are
listed, and it visits none twice: first those below its root, breadth first, then those that the
repository's root adds. The first directory that holds the path decides. If there is none, the
first file listed under the last name of the path is read, if there is such a file. -/
theorem search_breadthFirst {ε : Type} {tree : Tree (Action ε)} {w : World}
    {after : State → Query → State} (hanswers : Answers tree w c after)
    (hfinite : c.listed.Finite) (root path : String) :
    let start := Text.dropAround '/' root
    let target := Text.dropAround '/' path
    ∃ below top order, BreadthFirst c.directories start below ∧
      BreadthFirst c.directories "" top ∧ order = below ++ top.filter (fun d => d ∉ below) ∧
      order.Nodup ∧
      (∀ d, d ∈ order ↔ Reaches c.directories start d ∨ Reaches c.directories "" d) ∧
      ∀ limit st, c.listed.ncard + 2 ≤ limit →
        (∀ before directory later content, order = before ++ directory :: later →
          (∀ d ∈ before, c.fileAt d target = none) → c.fileAt directory target = some content →
          (search tree limit root path).run w st = (.ok (.text content),
            (visits target before ++ [Query.file directory target]).foldl after st)) ∧
        ((∀ d ∈ order, c.fileAt d target = none) →
          (search tree limit root path).run w st =
            match (order.flatMap c.entries).find? fun e =>
              e.kind == .file && e.name == Text.afterLast '/' target with
            | none => (.ok .absent, (visits target order).foldl after st)
            | some e => (.ok (((c.fileAt "" e.path).map Found.text).getD .absent),
                (visits target order ++ [Query.file "" e.path]).foldl after st)) := by
  intro start target
  obtain ⟨below,top,hbelow,htop,htour⟩ := exists_order hfinite (Text.afterLast '/' target) start
  have hmem : ∀ d, d ∈ below ++ top.filter (fun d => d ∉ below) ↔
      Reaches c.directories start d ∨ Reaches c.directories "" d := by
    intro d
    rw [← hbelow.mem_iff, ← htop.mem_iff, List.mem_append, List.mem_filter, decide_eq_true_iff]
    tauto
  have hnodup : (below ++ top.filter fun d => d ∉ below).Nodup := by
    refine List.nodup_append'.mpr ⟨hbelow.nodup,htop.nodup.filter _,fun d hd hlater => ?_⟩
    have hnew : d ∉ below := by simpa using (List.mem_filter.mp hlater).2
    exact hnew hd
  have hlength := length_le_of_listed hfinite hnodup fun d hd => by
    rcases (hmem d).mp hd with h | h
    · exact (mem_of_reaches h).imp_right .inr
    · exact .inr (mem_of_reaches h)
  refine ⟨below,top,_,hbelow,htop,rfl,hnodup,hmem,fun limit st hlimit => ⟨?_,?_⟩⟩
  · intro before directory later content horder hbefore hholds
    refine run_walk_of_holds hanswers htour horder hbefore hholds ?_ st
    rw [horder, List.length_append] at hlength
    omega
  · intro hmissing
    refine (run_walk_of_missing hanswers htour hmissing (hlength.trans hlimit) st).trans ?_
    rw [Walk.start, Option.none_or, Walk.named]
    cases List.find? _ _ <;> rfl

/-- A tree in memory that notes what it is asked for. -/
def Contents.tree (c : Contents) (after : State → Query → State) : Tree (Action Failure) where
  fileAt directory path := do
    modify fun st => after st (.file directory path)
    return c.fileAt directory path
  entries directory := do
    modify fun st => after st (.listing directory)
    return c.entries directory

lemma Contents.answers_tree (c : Contents) (after : State → Query → State) (w : World) :
    Answers (c.tree after) w c after := ⟨fun _ _ _ => rfl,fun _ _ => rfl⟩

/-- A repository where a directory lists its parent, and one is listed twice. -/
def circular : Contents where
  fileAt directory path := if directory = "c" ∧ path = "lib/A.sol" then some "text" else none
  entries
    | "" => [⟨"p", "p", .directory⟩, ⟨"c", "c", .directory⟩, ⟨"c", "c", .directory⟩]
    | "p" => [⟨"q", "p/q", .directory⟩, ⟨"A.sol", "p/A.sol", .file⟩]
    | "p/q" => [⟨"p", "p", .directory⟩]
    | _ => []

lemma listed_circular : circular.listed ⊆ ({"p", "c", "p/q"} : Finset String) := by
  rintro d ⟨parent,hd⟩
  simp only [Contents.directories, circular] at hd
  split at hd <;> simp at hd ⊢ <;> tauto

/-- Prints what is asked for. -/
def noting (st : State) : Query → State
  | .file directory path => { st with printed := st.printed ++ [directory ++ ": " ++ path] }
  | .listing directory => { st with printed := st.printed ++ [directory] }

/-- Below `p` a file of the name is only listed; the directory that holds the path comes later. -/
theorem search_breadthFirst_circular :
    Answers (circular.tree noting) (.answering fun _ => none) circular noting ∧
    circular.listed.Finite ∧
    (search (circular.tree noting) 5 "p/" "/lib/A.sol").run (.answering fun _ => none) {} =
      (.ok (.text "text"), (visits "lib/A.sol" ["p", "p/q", ""] ++
        [Query.file "c" "lib/A.sol"]).foldl noting {}) := by
  have hanswers := circular.answers_tree noting (.answering fun _ => none)
  have hfinite : circular.listed.Finite := (Finset.finite_toSet _).subset listed_circular
  have hlimit : circular.listed.ncard + 2 ≤ 5 := by
    have := Set.ncard_le_ncard listed_circular (Finset.finite_toSet _)
    rw [Set.ncard_coe_finset] at this
    exact Nat.add_le_add_right this 2
  have hbelow : BreadthFirst circular.directories "p" ["p", "p/q"] := by
    refine @Layered.layer _ _ _ _ ["p"] ["p/q"] ?_
    rw [show unseen _ _ = ["p/q"] by decide +kernel]
    refine @Layered.layer _ _ _ _ ["p/q"] [] ?_
    rw [show unseen _ _ = [] by decide +kernel]
    exact .done _
  have htop : BreadthFirst circular.directories "" ["", "p", "c", "p/q"] := by
    refine @Layered.layer _ _ _ _ [""] ["p", "c", "p/q"] ?_
    rw [show unseen _ _ = ["p", "c"] by decide +kernel]
    refine @Layered.layer _ _ _ _ ["p", "c"] ["p/q"] ?_
    rw [show unseen _ _ = ["p/q"] by decide +kernel]
    refine @Layered.layer _ _ _ _ ["p/q"] [] ?_
    rw [show unseen _ _ = [] by decide +kernel]
    exact .done _
  obtain ⟨below,top,order,hbelow',htop',horder,-,-,hrun⟩ :=
    search_breadthFirst hanswers hfinite "p/" "/lib/A.sol"
  have hroot : Text.dropAround '/' "p/" = "p" := by decide +kernel
  have hpath : Text.dropAround '/' "/lib/A.sol" = "lib/A.sol" := by decide +kernel
  rw [hroot] at hbelow'
  rw [hbelow'.unique hbelow, htop'.unique htop] at horder
  rw [hpath] at hrun
  refine ⟨hanswers,hfinite,(hrun 5 {} hlimit).1 _ _ [] _ (horder.trans (by decide +kernel)) ?_ ?_⟩
  · decide +kernel
  · decide +kernel

end DeployCheck.Repository

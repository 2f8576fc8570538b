import DeskConfig.Include.Files

/-!
What is asked of files. One computation after another asks what the first one asks and then
what the second one does; and one that asks finds the same among all files that are the same
where it asks.
-/

namespace DeskConfig.Query

variable {α β : Type} {files files' : Files}

theorem run_bind (q : Query α) (next : α → Query β) :
    (q >>= next).run files = (next (q.run files)).run files := by
  induction q with
  | done a => rfl
  | ask path rest ih => exact ih (files path)

theorem asked_bind (q : Query α) (next : α → Query β) :
    (q >>= next).asked files = q.asked files ++ (next (q.run files)).asked files := by
  induction q with
  | done a => rfl
  | ask path rest ih => exact congrArg (path :: ·) (ih (files path))

theorem run_congr {q : Query α} (h : ∀ path ∈ q.asked files, files' path = files path) :
    q.run files' = q.run files := by
  induction q with
  | done a => rfl
  | ask path rest ih =>
    rw [asked, List.forall_mem_cons] at h
    rw [run, run, h.1]
    exact ih (files path) h.2

end DeskConfig.Query

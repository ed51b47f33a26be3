import Workbench.Proofs.FileSystem.Storing
import Workbench.Proofs.Session.Workspace

/-!
# The edited text on its way into the session

A run of a plugin stores the text of the editor before it does anything else. Whether that succeeds
can be told from the files that are there, and a run that cannot store its text leaves no sign of
itself in the session.
-/

namespace Workbench

open FileSystem (Admits Stored)

/-- A run whose text can be stored goes on from the files with the text in its place, where it is
read as the editor had it and all else that is new are directories on the way that were missing. Any
other run ends at once with the refusal, and the session is as it was. -/
theorem Plugin.run_stores_or_refuses (plugin : Plugin) (editor : EditorState) (backend : Backend)
    (transformer : Program → Transformer) (session : Session) :
    (∃ root left, session.files.resolve editor.file = .ok root ∧ session.files.Admits root ∧
      left.read editor.file .utf8 = .ok editor.text ∧
      left.workingDirectory = session.files.workingDirectory ∧
      (∀ other ≠ root, left.occupant? other =
        if other < root ∧ session.files.occupant? other = none then some .directory
        else session.files.occupant? other) ∧
      (plugin.run editor backend transformer).run session =
        (Invocation.prepare editor.options plugin.config.packages >>=
          PluginRun.proceed ⟨root, editor.options, backend, transformer⟩).run
            { session with files := left }) ∨
    (∀ root, session.files.resolve editor.file = .ok root → ¬session.files.Admits root) ∧
      ∃ cause, (plugin.run editor backend transformer).run session =
        (.done ⟨.error (.file cause), none⟩, session) := by
  by_cases accepted : ∃ root, session.files.resolve editor.file = .ok root ∧
      session.files.Admits root
  · obtain ⟨root, resolved, admits⟩ := accepted
    obtain ⟨left, done, stored⟩ := FileSystem.store_of_admits resolved admits editor.text
    exact .inl ⟨root, left, resolved, admits, stored.read resolved, stored.workingDirectory,
      stored.elsewhere, Plugin.run_run_of_ok done⟩
  · push Not at accepted
    obtain ⟨cause, failed⟩ := FileSystem.store_of_not_admits accepted editor.text
    exact .inr ⟨accepted, cause, Plugin.run_run_of_error failed⟩

end Workbench

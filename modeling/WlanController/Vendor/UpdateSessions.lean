import WlanController.Foundation.Programs
import WlanController.Foundation.Run
import WlanController.Vendor.UpdateAgent

/-!
# Sessions of the update agent

A session that ends either installs its package or leaves what can be seen of the directory as it
was, whatever fails on the way.  There are two ways out: a crash in front of any change, and the
critical error, which leaves the copy that was saved.
-/

namespace WlanController.Vendor

open FileTree Programs

variable {outside : Surroundings} {cupPath wtpDir : List UInt8}

/-! ## Commands that fit -/

theorem fits_backup : FitsCommand (characters "cp -ar " ++ wtpDir ++ characters "/* " ++ backupDir) ↔
    wtpDir.length ≤ 998 := by
  have parts : (characters "cp -ar ").length = 7 ∧ (characters "/* ").length = 3 ∧
      backupDir.length = 15 := ⟨rfl, rfl, rfl⟩
  simp only [FitsCommand, List.length_append, parts, wuaBufSize]
  omega

theorem fits_copy : FitsCommand (characters "cp -r " ++ cupUnpackDir ++ characters "/WTP/* " ++
    wtpDir ++ characters "/") ↔ wtpDir.length ≤ 994 := by
  have parts : (characters "cp -r ").length = 6 ∧ cupUnpackDir.length = 15 ∧
      (characters "/WTP/* ").length = 7 ∧ (characters "/").length = 1 := ⟨rfl, rfl, rfl, rfl⟩
  simp only [FitsCommand, List.length_append, parts, wuaBufSize]
  omega

theorem fits_remove : FitsCommand (characters "rm -rf " ++ wtpDir ++ characters "/*") ↔
    wtpDir.length ≤ 1014 := by
  have parts : (characters "rm -rf ").length = 7 ∧ (characters "/*").length = 2 := ⟨rfl, rfl⟩
  simp only [FitsCommand, List.length_append, parts, wuaBufSize]
  omega

theorem fits_restore : FitsCommand (characters "cp -ra " ++ backupDir ++ characters "/* " ++
    wtpDir ++ characters "/") ↔ wtpDir.length ≤ 997 := by
  have parts : (characters "cp -ra ").length = 7 ∧ backupDir.length = 15 ∧
      (characters "/* ").length = 3 ∧ (characters "/").length = 1 := ⟨rfl, rfl, rfl, rfl⟩
  simp only [FitsCommand, List.length_append, parts, wuaBufSize]
  omega

/-! ## What a stage ensures -/

section Stages

variable {wtp saved : Dir}

theorem ensures_unzip {unpacked : Dir} :
    Ensures (fun disk => disk.wtp = wtp) (unzip outside cupPath unpacked)
      (fun _ disk => disk.wtp = wtp) (fun _ _ => False) := by
  apply Ensures.ite
  · intro _
    exact ensures_pure fun _ holds => holds
  · intro _
    apply ensures_get.bind
    intro _
    apply (ensures_modify fun _ holds => ?_).bind
    · intro _
      exact ensures_pure fun _ holds => holds
    · exact holds.2

/-- What can be seen is saved where there is nothing yet. -/
theorem ensures_backup :
    Ensures (fun disk => disk.wtp = wtp) (backupCurrentWTP outside wtpDir .empty)
      (fun success disk => disk.wtp = wtp ∧
        (success = true → disk.backup = some wtp.visible ∧ wtpDir.length ≤ 998))
      (fun _ _ => False) := by
  apply Ensures.ite
  · intro _
    exact ensures_pure fun _ holds => ⟨holds, nofun⟩
  · intro fits
    have short := fits_backup.mp (not_not.mp fits)
    apply ensures_get.bind
    intro disk
    apply (ensures_modify fun _ holds => ?_).bind
    · intro _
      exact ensures_pure fun _ holds => holds
    · obtain ⟨same, holds⟩ := holds
      subst same
      refine ⟨holds, fun success => ⟨?_, short⟩⟩
      cases fails : outside.backupFails with
      | none => simp [copyAll, holds]
      | some left => simp [copyAll, fails] at success

theorem makeDir_eq_some {there : Option Dir} {made : Bool} {dir : Dir}
    (makes : makeDir there made = some dir) : dir = .empty := by
  unfold makeDir at makes
  split at makes
  · cases makes
  · cases makes
    rfl

theorem ensures_stage1 :
    Ensures (fun disk => disk.wtp = wtp) (wuaStage1 outside cupPath wtpDir)
      (fun cud disk => disk.wtp = wtp ∧
        (cud.isSome → disk.backup = some wtp.visible ∧ wtpDir.length ≤ 998))
      (fun stop disk => stop = .crashed ∧ disk.wtp = wtp) := by
  have fails {disk : Disk} (holds : disk.wtp = wtp) : disk.wtp = wtp ∧
      ((none : Option CWUpdateDescriptor).isSome →
        disk.backup = some wtp.visible ∧ wtpDir.length ≤ 998) := ⟨holds, nofun⟩
  apply ensures_get.bind
  intro disk
  cases makeDir disk.unpack outside.unpackMade with
  | none => exact ensures_pure fun _ holds => fails holds.2
  | some unpacked =>
    apply (ensures_modify fun _ holds => ?_).bind
    · intro _
      -- Neither the unpacking nor the reading changes the directory of the WTP.
      apply (ensures_unzip.mono (fun _ holds => holds) (fun _ _ holds => holds) nofun).bind
      intro unzipped
      apply Ensures.ite
      · intro _
        exact ensures_pure fun _ holds => fails holds
      · intro _
        apply ensures_get.bind
        intro disk
        cases parseCUD (disk.unpack.bind (Dir.fileAt · (characters "update.cud"))) with
        | crashes => exact ensures_throw fun _ holds => ⟨rfl, holds.2⟩
        | refuses => exact ensures_pure fun _ holds => fails holds.2
        | reads cud =>
          apply ensures_get.bind
          intro disk
          cases makes : makeDir disk.backup outside.backupMade with
          | none => exact ensures_pure fun _ holds => fails holds.2.2
          | some saved =>
            -- From here on there is a backup, empty at first.
            cases makeDir_eq_some makes
            apply (ensures_modify fun _ holds => ?_).bind
            · intro _
              apply (ensures_backup.mono (fun _ holds => holds) (fun _ _ holds => holds) nofun).bind
              intro copied
              apply Ensures.ite
              · intro _
                exact ensures_pure fun _ holds => fails holds.1
              · intro success
                exact ensures_pure fun _ holds => ⟨holds.1, fun _ => holds.2 (not_not.mp success)⟩
            · exact holds.2.2
    · exact holds.2

theorem ensures_script {script : List UInt8 → Dir → Dir → Dir × Dir × Bool} {path : List UInt8} :
    Ensures (fun disk => disk.backup = some saved) (runScript script path)
      (fun _ disk => disk.backup = some saved) (fun _ _ => False) := by
  apply Ensures.ite
  · intro _
    exact ensures_pure fun _ holds => holds
  · intro _
    apply ensures_get.bind
    intro disk
    apply (ensures_set fun _ holds => ?_).bind
    · intro _
      exact ensures_pure fun _ holds => holds
    · exact (congrArg Disk.backup holds.1).trans holds.2

theorem ensures_copy :
    Ensures (fun disk => disk.backup = some saved) (copyWTP outside wtpDir)
      (fun success disk => disk.backup = some saved ∧ (success = true → wtpDir.length ≤ 994))
      (fun _ _ => False) := by
  apply Ensures.ite
  · intro _
    exact ensures_pure fun _ holds => ⟨holds, nofun⟩
  · intro fits
    have short := fits_copy.mp (not_not.mp fits)
    apply ensures_get.bind
    intro disk
    apply (ensures_set fun _ holds => ?_).bind
    · intro _
      exact ensures_pure fun _ holds => ⟨holds, fun _ => short⟩
    · exact (congrArg Disk.backup holds.1).trans holds.2

/-- What has been saved stays, and the stage fails where the directory's name is too long. -/
theorem ensures_stage2 {cud : CWUpdateDescriptor} :
    Ensures (fun disk => disk.backup = some saved) (wuaStage2 outside wtpDir cud)
      (fun success disk => disk.backup = some saved ∧ (success = true → wtpDir.length ≤ 994))
      (fun _ _ => False) := by
  apply Ensures.ite
  · intro _
    exact ensures_pure fun _ holds => ⟨holds, nofun⟩
  · intro _
    apply ensures_script.bind
    intro ran
    apply Ensures.ite
    · intro _
      exact ensures_pure fun _ holds => ⟨holds, nofun⟩
    · intro _
      apply ensures_copy.bind
      intro copied
      apply Ensures.ite
      · intro _
        exact ensures_pure fun _ holds => ⟨holds.1, nofun⟩
      · intro success disk holds
        have short := holds.2 (not_not.mp success)
        exact ensures_script.mono (fun _ holds => holds) (fun _ _ holds => ⟨holds, fun _ => short⟩)
          nofun disk holds.1

/-- The directory is emptied first, so that only what was saved can be seen behind the second
command. -/
theorem ensures_restore (seen : saved.visible = saved) :
    Ensures (fun disk => disk.backup = some saved) (restoreBackupWTP outside wtpDir)
      (fun success disk => disk.backup = some saved ∧ (success = true → disk.wtp.visible = saved))
      (fun _ _ => False) := by
  apply Ensures.ite
  · intro _
    exact ensures_pure fun _ holds => ⟨holds, nofun⟩
  · intro _
    apply ensures_get.bind
    intro disk
    have modifies : Ensures (fun disk' => disk = disk' ∧ disk'.backup = some saved)
        (modify fun disk' => { disk' with wtp := (removeAll outside.removeFails disk.wtp).1 } :
          AgentM PUnit)
        (fun _ disk' => disk'.backup = some saved ∧
          disk'.wtp = (removeAll outside.removeFails disk.wtp).1) (fun _ _ => False) :=
      ensures_modify fun _ holds => ⟨holds.2, rfl⟩
    apply modifies.bind
    intro _
    apply Ensures.ite
    · intro _
      exact ensures_pure fun _ holds => ⟨holds.1, nofun⟩
    · intro removed
      apply Ensures.ite
      · intro _
        exact ensures_pure fun _ holds => ⟨holds.1, nofun⟩
      · intro _
        apply ensures_get.bind
        intro disk'
        apply (ensures_set fun _ holds => ?_).bind
        · intro _
          exact ensures_pure fun _ holds => holds
        · obtain ⟨same, backup, emptied⟩ := holds
          subst same
          refine ⟨backup, fun success => ?_⟩
          cases fails : outside.restoreFails with
          -- If either step failed, the restoring was no success.
          | some left => simp [copyAll, fails] at success
          | none =>
            cases gone : outside.removeFails with
            | some left => simp [removeAll, gone] at removed
            | none => simp [copyAll, backup, emptied, removeAll, gone, seen]

end Stages

/-! ## A session -/

/-- Cleaning up leaves the directory of the WTP alone. -/
theorem ensures_clean {P : Disk → Prop} {Q : Dir → Prop} {E : AgentStop → Disk → Prop}
    (holds : ∀ disk, P disk → Q disk.wtp) :
    Ensures P (cleanTmpFiles outside) (fun _ disk => Q disk.wtp) E :=
  ensures_modify fun disk here => holds disk here

/-- The session has installed its package. -/
def Installs (result : Bool × Start) : Prop := result.1 = true ∧ result.2 ≠ .astray

theorem startWTP_ne_astray : startWTP outside wtpDir ≠ .astray := by
  unfold startWTP
  split <;> nofun

/-- Whatever fails. -/
theorem ensures_session {wtp : Dir} :
    Ensures (fun disk => disk.wtp = wtp) (wtpUpdateAgent outside cupPath wtpDir)
      (fun result disk => ¬ Installs result → disk.wtp.visible = wtp.visible)
      (fun stop disk => match stop with
        | .crashed => disk.wtp = wtp
        | .critical => disk.backup = some wtp.visible) := by
  let Seen (dir : Dir) : Prop := dir.visible = wtp.visible
  have same {disk : Disk} (holds : disk.wtp = wtp) : Seen disk.wtp := congrArg Dir.visible holds
  apply Ensures.ite
  · intro _
    apply (ensures_clean (Q := Seen) fun _ holds => same holds).bind
    intro _
    exact ensures_pure fun _ holds _ => holds
  · intro _
    apply Ensures.ite
    · intro _
      apply (ensures_clean (Q := Seen) fun _ holds => same holds).bind
      intro _
      exact ensures_pure fun _ holds _ => holds
    · intro _
      apply (ensures_stage1.mono (fun _ holds => holds) (fun _ _ holds => holds) ?_).bind
      · intro cud
        cases cud with
        | none =>
          apply (ensures_clean (Q := Seen) fun _ holds => same holds.1).bind
          intro _
          exact ensures_pure fun _ holds _ => holds
        | some cud =>
          have stage2 := @ensures_stage2 outside wtpDir wtp.visible cud
          apply (stage2.mono (fun _ holds => (holds.2 rfl).1) (fun _ _ holds => holds) nofun).bind
          intro applied
          apply Ensures.ite
          · intro _
            -- what the package has done is what is installed
            apply (ensures_clean (Q := fun _ => True) fun _ _ => trivial).bind
            intro _
            exact ensures_pure fun _ _ other => absurd ⟨rfl, startWTP_ne_astray⟩ other
          · intro _
            have restores := @ensures_restore outside wtpDir wtp.visible Dir.visible_visible
            apply (restores.mono (fun _ holds => holds.1) (fun _ _ holds => holds) nofun).bind
            intro restored
            apply Ensures.ite
            · intro _
              exact ensures_throw fun _ holds => holds.1
            · intro success
              apply (ensures_clean (Q := Seen) fun _ holds => holds.2 (not_not.mp success)).bind
              intro _
              exact ensures_pure fun _ holds _ => holds
      · intro stop disk holds
        rw [holds.1]
        exact holds.2

/-! ## One session after another -/

/-- A package that the WTP has received, and what the agent meets with. -/
structure AgentSession where
  outside : Surroundings
  cupPath : List UInt8
  package : List UInt8

def AgentSession.run (session : AgentSession) (wtpDir : List UInt8) (disk : Disk) :
    EStateM.Result AgentStop Disk (Bool × Start) :=
  (wtpUpdateAgent session.outside session.cupPath wtpDir).run { disk with cup := session.package }

/-- A machine, and what could be seen of the directory when a package was installed last. -/
structure Machine where
  disk : Disk
  installed : Dir

/-- A session that does not end with the critical error. -/
inductive AgentSession.Step (wtpDir : List UInt8) : Machine → AgentSession → Machine → Prop
  | installs {machine : Machine} {session : AgentSession} {result : Bool × Start} {disk : Disk} :
      session.run wtpDir machine.disk = .ok result disk → Installs result →
        Step wtpDir machine session ⟨disk, disk.wtp.visible⟩
  | fails {machine : Machine} {session : AgentSession} {result : Bool × Start} {disk : Disk} :
      session.run wtpDir machine.disk = .ok result disk → ¬ Installs result →
        Step wtpDir machine session ⟨disk, machine.installed⟩
  | crashes {machine : Machine} {session : AgentSession} {disk : Disk} :
      session.run wtpDir machine.disk = .error .crashed disk →
        Step wtpDir machine session ⟨disk, machine.installed⟩

theorem seen_step {machine machine' : Machine} {session : AgentSession}
    (seen : machine.disk.wtp.visible = machine.installed)
    (step : session.Step wtpDir machine machine') :
    machine'.disk.wtp.visible = machine'.installed := by
  have ensured := @ensures_session session.outside session.cupPath wtpDir machine.disk.wtp
    { machine.disk with cup := session.package } rfl
  cases step with
  | installs ran installs => rfl
  | fails ran other =>
    rw [show wtpUpdateAgent _ _ _ _ = _ from ran] at ensured
    exact (ensured other).trans seen
  | crashes ran =>
    rw [show wtpUpdateAgent _ _ _ _ = _ from ran] at ensured
    exact (congrArg Dir.visible ensured).trans seen

/-- A descriptor with a version and nothing else. -/
def versionOnly : Dir := fun path =>
  if path = ⟨characters "update.cud", []⟩ then some (.file (characters "version 1"))
  else none

/-- Nothing fails. -/
def smooth : Surroundings where
  logOpens := true
  cwdFound := true
  unpackMade := true
  unzip _ := (versionOnly, true)
  backupMade := true
  backupFails := none
  environmentSet := true
  preScript _ wtp unpack := (wtp, unpack, true)
  copyFails := none
  postScript _ wtp unpack := (wtp, unpack, true)
  removeFails := none
  restoreFails := none
  cupRemoved := true
  cleanFails := none
  forks := true

def blankDisk : Disk := ⟨.empty, none, none, none⟩

/-- Where no command fails it is the length of the last one that decides. -/
theorem ensures_restore_iff (removes : outside.removeFails = none)
    (restores : outside.restoreFails = none) (short : wtpDir.length ≤ 998) :
    Ensures (fun _ => True) (restoreBackupWTP outside wtpDir)
      (fun success _ => success = true ↔ wtpDir.length ≤ 997) (fun _ _ => False) := by
  apply Ensures.ite
  · intro unfit
    exact absurd (fits_remove.mpr (by omega)) unfit
  · intro _
    apply ensures_get.bind
    intro disk
    apply (ensures_modify (Q := fun _ _ => True) fun _ _ => trivial).bind
    intro _
    apply Ensures.ite
    · intro failed
      simp [removeAll, removes] at failed
    · intro _
      apply Ensures.ite
      · intro unfit
        have long : ¬ wtpDir.length ≤ 997 := fun shorter => unfit (fits_restore.mpr shorter)
        exact ensures_pure fun _ _ => by simp [long]
      · intro fits
        have shorter := fits_restore.mp (not_not.mp fits)
        apply ensures_get.bind
        intro disk'
        apply (ensures_set (Q := fun _ _ => True) fun _ _ => trivial).bind
        intro _
        exact ensures_pure fun _ _ => by simp [copyAll, restores, shorter]

/-- What a program comes to that always returns. -/
theorem returns_of_ensures {α : Type} {P : Disk → Prop} {program : AgentM α}
    {Q : α → Disk → Prop} (ensures : Ensures P program Q fun _ _ => False) {disk : Disk}
    (holds : P disk) : ∃ result disk', program disk = .ok result disk' ∧ Q result disk' := by
  have behind := ensures disk holds
  cases ran : program disk with
  | ok result disk' =>
    rw [ran] at behind
    exact ⟨result, disk', rfl, behind⟩
  | error stop disk' =>
    rw [ran] at behind
    exact behind.elim

/-- No critical error behind the cleaning up. -/
theorem clean_ends {α : Type} (result : α) (disk : Disk) :
    ¬ ∃ left, (do cleanTmpFiles outside; return result : AgentM α).run disk =
      .error .critical left := by
  intro ended
  obtain ⟨left, ended⟩ := ended
  cases ended

/-- What comes behind the first stage. -/
theorem critical_of_stage1 (removes : outside.removeFails = none)
    (restores : outside.restoreFails = none) (cud : CWUpdateDescriptor) {disk : Disk} {saved : Dir}
    (backup : disk.backup = some saved) (short : wtpDir.length ≤ 998) :
    (∃ left, (do
      if ← wuaStage2 outside wtpDir cud then
        cleanTmpFiles outside
        return (true, startWTP outside wtpDir)
      if ¬ (← restoreBackupWTP outside wtpDir) then throw .critical
      cleanTmpFiles outside
      return (false, startWTP outside wtpDir) : AgentM (Bool × Start)).run disk =
        .error .critical left) ↔ wtpDir.length = 998 := by
  obtain ⟨applied, middle, stage2, _, fits⟩ :=
    returns_of_ensures (@ensures_stage2 outside wtpDir saved cud) backup
  obtain ⟨restored, last, restoring, decides⟩ := @returns_of_ensures _ _ _ _
    (ensures_restore_iff removes restores short) middle trivial
  rw [EStateM.run_bind, show (wuaStage2 outside wtpDir cud).run disk = _ from stage2]
  cases applied with
  | true =>
    have shorter := fits rfl
    exact iff_of_false (clean_ends _ middle) (by omega)
  | false =>
    simp only [Bool.false_eq_true, if_false, EStateM.run_bind,
      show (restoreBackupWTP outside wtpDir).run middle = _ from restoring]
    cases restored with
    | true =>
      have shorter := decides.mp rfl
      exact iff_of_false (clean_ends _ last) (by omega)
    | false =>
      have long : ¬ wtpDir.length ≤ 997 := fun shorter => nomatch decides.mpr shorter
      exact iff_of_true ⟨last, rfl⟩ (by omega)

/-- Where emptying and filling the directory never fail, a session ends with the critical error if
and only if it gets past its first stage and the name of the directory has 998 bytes: the command
that saves the directory then fits its buffer, and the one that fills it again does not. -/
theorem critical_iff (removes : outside.removeFails = none) (restores : outside.restoreFails = none)
    (disk : Disk) :
    (∃ left, (wtpUpdateAgent outside cupPath wtpDir).run disk = .error .critical left) ↔
      outside.logOpens = true ∧ outside.cwdFound = true ∧ wtpDir.length = 998 ∧
        ∃ cud left, (wuaStage1 outside cupPath wtpDir).run disk = .ok (some cud) left := by
  have stage1 := @ensures_stage1 outside cupPath wtpDir disk.wtp disk rfl
  unfold wtpUpdateAgent
  by_cases log : outside.logOpens = true
  case neg =>
    rw [if_pos log]
    exact iff_of_false (clean_ends _ disk) fun both => log both.1
  case pos =>
    rw [if_neg (not_not.mpr log)]
    by_cases cwd : outside.cwdFound = true ∧ wtpDir.length < wuaBufSize
    case neg =>
      rw [if_pos cwd]
      -- A path of 998 bytes fits the buffer.
      refine iff_of_false (clean_ends _ disk) fun both => cwd ⟨both.2.1, ?_⟩
      rw [both.2.2.1]
      show 998 < 1024
      omega
    case pos =>
      rw [if_neg (not_not.mpr cwd), EStateM.run_bind]
      cases ran : (wuaStage1 outside cupPath wtpDir).run disk with
      | error stop left =>
        rw [show wuaStage1 outside cupPath wtpDir disk = _ from ran] at stage1
        simp [stage1.1]
      | ok cud left =>
        rw [show wuaStage1 outside cupPath wtpDir disk = _ from ran] at stage1
        cases cud with
        | none => exact iff_of_false (clean_ends _ left) (by simp)
        | some cud =>
          obtain ⟨backup, short⟩ := stage1.2 rfl
          refine (critical_of_stage1 removes restores cud backup short).trans ?_
          simp [log, cwd.1]

theorem stage1_smooth (short : wtpDir.length ≤ 998) :
    ∃ left, (wuaStage1 smooth [] wtpDir).run blankDisk =
      .ok (some ⟨characters "1", [], []⟩) left := by
  have saves (disk : Disk) : (backupCurrentWTP smooth wtpDir .empty).run disk =
      .ok true { disk with backup := some (copyAll none disk.wtp .empty).1 } := by
    rw [backupCurrentWTP, if_neg (not_not.mpr (fits_backup.mpr short))]
    rfl
  have behind : (wuaStage1 smooth [] wtpDir).run blankDisk = (do
      if ¬ (← backupCurrentWTP smooth wtpDir .empty) then return none
      return some ⟨characters "1", [], []⟩ : AgentM (Option CWUpdateDescriptor)).run
        ⟨.empty, some (Dir.overlay versionOnly .empty), some .empty, none⟩ := rfl
  rw [behind, EStateM.run_bind, saves]
  exact ⟨_, rfl⟩

/-- A directory with such a name is lost. -/
theorem critical_998 : ∃ left, (wtpUpdateAgent smooth [] (List.replicate 998 97)).run
    blankDisk = .error .critical left := by
  have length : (List.replicate 998 (97 : UInt8)).length = 998 := List.length_replicate
  obtain ⟨left, stage1⟩ := stage1_smooth (Nat.le_of_eq length)
  exact (critical_iff rfl rfl blankDisk).mpr ⟨rfl, rfl, length, _, left, stage1⟩

end WlanController.Vendor

import ServerUi.Proofs.Builder.Kinds
import ServerUi.Proofs.Except

/-! What the reading of a builder's program comes to, part by part, and with it that of an image. -/

namespace ServerUi

open Style

theorem Build.reading_lift_bind (images : Option (ImageSource → Report Bool)) (r : Report α)
    (f : α → Build β) :
    (((liftM r : Build α) >>= f).reading images).outcome =
      r.outcome >>= fun a => ((f a).reading images).outcome := by
  rw [reading_bind, lift_report, reading_ofReport, Report.bind_outcome]

theorem Build.reading_outcome_bind (images : Option (ImageSource → Report Bool))
    (outcome : Except Fault α) (f : α → Build β) :
    (((liftM outcome : Build α) >>= f).reading images).outcome =
      outcome >>= fun a => ((f a).reading images).outcome := by
  rw [reading_bind, lift_outcome, reading_ofReport, Report.bind_outcome]
  rfl

theorem Build.reading_isLoadable_bind (images : Option (ImageSource → Report Bool))
    (source : ImageSource) (f : Bool → Build β) :
    ((Build.isLoadable source >>= f).reading images).outcome =
      (Build.loading images source).outcome >>= fun b => ((f b).reading images).outcome := by
  rw [reading_bind, Report.bind_outcome]
  have h : (Build.isLoadable source).reading images = Build.loading images source := by
    rw [Build.isLoadable, Build.reading]
    exact bind_pure _
  rw [h]

theorem image_outcome (images : Option (ImageSource → Report Bool)) (config : Config) :
    ((Builder.image config).reading images).outcome = do
      match ← Builder.imageSource config with
      | none => return none
      | some source =>
        let width ← (dimension (config.get "width")).outcome
        let height ← (dimension (config.get "height")).outcome
        if ← (Build.loading images source).outcome then
          let fit ← (choice BoxFit (config.get "fit")).outcome
          return some (.leaf (.image source width height fit (some (.ofSize width height))))
        else return some (Placeholder.ofSize width height).widget := by
  rw [Builder.image, Build.reading_outcome_bind]
  congr 1
  funext source
  cases source with
  | none => rfl
  | some source =>
    simp only [Build.reading_lift_bind, Build.reading_isLoadable_bind]
    congr 1
    funext width
    congr 1
    funext height
    congr 1
    funext loads
    cases loads with
    | false => rfl
    | true => exact Build.reading_lift_bind _ _ _

end ServerUi

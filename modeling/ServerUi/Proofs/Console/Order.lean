import ServerUi.Console.Run

/-! How a command ends, by what is loaded for it. -/

namespace ServerUi.Run

variable {fs : FileSystem} {order : RenderOrder} {settings : Settings}

/-- Whether the settings and the document of an order are loaded decides how the command ends. -/
theorem ofOrder_document_error (environment : Option String)
    (hsettings : Settings.load fs order.settings = .ok settings) {e : DocumentError}
    (he : Document.ofFile fs order.document = .error e) :
    ofOrder fs environment order =
      failed (some (levelNamed (settings.effectiveLevel environment))) (.document e) := by
  rw [ofOrder, hsettings]
  dsimp only
  rw [RenderOrder.load, he]
  rfl

theorem ofOrder_loaded (environment : Option String)
    (hsettings : Settings.load fs order.settings = .ok settings) {members : Config}
    (hmembers : Document.ofFile fs order.document = .ok members) {host : Host}
    (hhost : settings.host fs = .ok host) :
    ofOrder fs environment order =
      ofRendering (levelNamed (settings.effectiveLevel environment)) order
        (host.present (.obj members) settings.store) := by
  rw [ofOrder, hsettings]
  dsimp only
  rw [RenderOrder.load, hmembers, hhost]
  rfl

/-- No command expects that a directory of assets cannot be asked for. -/
theorem assets_ending (fault : Fault) :
    (LoadError.assets fault).ending = .crash .nullCharacter ∨
      (LoadError.assets fault).ending = .crash .unencodable := by
  cases fault with
  | nullCharacter => exact .inl rfl
  | _ => exact .inr rfl

theorem ofOrder_document_ok (environment : Option String)
    (hsettings : Settings.load fs order.settings = .ok settings) {members : Config}
    (hmembers : Document.ofFile fs order.document = .ok members) :
    ((ofOrder fs environment order).ending = .crash .nullCharacter ∨
        (ofOrder fs environment order).ending = .crash .unencodable) ∨
      ∃ host, settings.host fs = .ok host ∧ ofOrder fs environment order =
        ofRendering (levelNamed (settings.effectiveLevel environment)) order
          (host.present (.obj members) settings.store) := by
  cases hhost : settings.host fs with
  | error e =>
    rw [ofOrder, hsettings]
    dsimp only
    rw [RenderOrder.load, hmembers, hhost]
    exact .inl (assets_ending e)
  | ok host => exact .inr ⟨host, rfl, ofOrder_loaded environment hsettings hmembers hhost⟩

end ServerUi.Run

import LiveService.Http.Application
import LiveService.Net.Running
import LiveService.Service.Settings

/-!
A deployment of the service: a store of service configurations, followed by the listener and by the
settings.
-/

namespace LiveService

abbrev Site := Deployment ServiceConfig Settings

namespace Site

/-- Opens the store; there is no listener to speak of yet. -/
def open? (path : Path) (followsLevel : Bool) (files : FileSystem) :
    FileSystem × Except ConfigError Site :=
  let (files, store) := ConfigStore.load ⟨ServiceConfig.codec.format, path⟩ {} files (.ok ())
  (files, store.map fun store =>
    ⟨store, files, .built "", ⟨followsLevel, none, none, []⟩, [], [], []⟩)

def adopt? (site : Site) (config : ServiceConfig) : Option Site :=
  (site.settings.adopt? config).map fun settings => { site with settings := settings }

def followModified (site : Site) : Site :=
  let (_, subscriptions) := site.store.subscriptions.onModified .settings
  { site with store := { site.store with subscriptions := subscriptions } }

def followRestored (site : Site) : Site :=
  let (_, subscriptions) := site.store.subscriptions.onRestored .settings
  { site with store := { site.store with subscriptions := subscriptions } }

def environment (outside : FileSystem → Surroundings) :
    Environment ServiceConfig Settings Http.Router :=
  ⟨Http.serviceBlueprint, outside, Settings.follow⟩

end Site

end LiveService

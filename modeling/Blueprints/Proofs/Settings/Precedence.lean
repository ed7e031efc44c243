import Blueprints.Settings.Basic

namespace Blueprints.Settings

open Ini

end Blueprints.Settings

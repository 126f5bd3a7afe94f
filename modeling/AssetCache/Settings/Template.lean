import AssetCache.Settings.Basic

/-!
# A file of settings to begin with

The file that is written for a new project: an origin, and the defaults for all
else spelled out with a word on what they mean. The origin stands between the
quotation marks as it is.
-/

set_option autoImplicit false

namespace AssetCache.Settings

/-- What stands before the origin. -/
def templateHead : String :=
  "# Asset worker configuration\n\n[worker]\norigin = \""

/-- What stands behind the origin. -/
def templateTail : String :=
  "\"\n\n" ++
  "# Cache region names. Change them to isolate two apps sharing an origin.\n" ++
  "[worker.regions]\n" ++
  "content = \"app-cache\"\n" ++
  "temp = \"app-temp-cache\"\n" ++
  "manifest = \"app-manifest\"\n\n" ++
  "[bundle]\n" ++
  "# \x7b\"resources\": \x7b\"<key>\": \"<hash>\", ...\x7d, " ++
  "\"core\": [\"/\", \"main.js\", ...]\x7d\n" ++
  "manifest = \"build/asset-manifest.json\"\n\n" ++
  "[storage]\n" ++
  "dir = \".sw-cache\"\n"

/-- A file of settings for an origin. -/
def template (origin : String) : String := templateHead ++ origin ++ templateTail

end AssetCache.Settings

import OfflineAgent.Settings.Basic

/-!
The settings one by one: their names in files, in order, and the kind of value each takes.
-/

namespace OfflineAgent.Settings

inductive Field where
  | origin
  | listen
  | cachePrefix
  | version
  | skipWaiting
  | apiPrefixes
  | staticExtensions
  | precache
  | offlinePage
  | syncTag
  | appName
  | requestTimeout
  | database
  | logDir
deriving DecidableEq, Repr

inductive Kind where
  | text
  | flag
  | texts
  | count
  | path
deriving DecidableEq, Repr

/-- A path may be unset; a count has 64 bits. -/
abbrev Kind.Datum : Kind → Type
  | text => String
  | flag => Bool
  | texts => List String
  | count => Nat
  | path => Option String

namespace Field

def all : List Field :=
  [origin, listen, cachePrefix, version, skipWaiting, apiPrefixes, staticExtensions, precache,
    offlinePage, syncTag, appName, requestTimeout, database, logDir]

def name : Field → String
  | origin => "origin"
  | listen => "listen"
  | cachePrefix => "cache_prefix"
  | version => "version"
  | skipWaiting => "skip_waiting"
  | apiPrefixes => "api_prefixes"
  | staticExtensions => "static_extensions"
  | precache => "precache"
  | offlinePage => "offline_page"
  | syncTag => "sync_tag"
  | appName => "app_name"
  | requestTimeout => "request_timeout_secs"
  | database => "database"
  | logDir => "log_dir"

def ofName? (name : String) : Option Field :=
  all.find? (·.name = name)

abbrev kind : Field → Kind
  | origin | listen | cachePrefix | version | offlinePage | syncTag | appName => .text
  | skipWaiting => .flag
  | apiPrefixes | staticExtensions | precache => .texts
  | requestTimeout => .count
  | database | logDir => .path

end Field

/-- The settings with one of them changed. -/
def set (settings : Settings) : (field : Field) → field.kind.Datum → Settings
  | .origin, value => { settings with origin := value }
  | .listen, value => { settings with listen := value }
  | .cachePrefix, value => { settings with cachePrefix := value }
  | .version, value => { settings with version := value }
  | .skipWaiting, value => { settings with skipWaiting := value }
  | .apiPrefixes, value => { settings with apiPrefixes := value }
  | .staticExtensions, value => { settings with staticExtensions := extensionSet value }
  | .precache, value => { settings with precache := value }
  | .offlinePage, value => { settings with offlinePage := value }
  | .syncTag, value => { settings with syncTag := value }
  | .appName, value => { settings with appName := value }
  | .requestTimeout, value => { settings with requestTimeout := value }
  | .database, value => { settings with database := value }
  | .logDir, value => { settings with logDir := value }

end OfflineAgent.Settings

import TidbOperator.Core.Types
import TidbOperator.Watcher.Basic
import TidbOperator.Watcher.Watch
import TidbOperator.Watcher.Spec
import TidbOperator.Watcher.Lemmas.Store
import TidbOperator.Watcher.Lemmas.Cache
import TidbOperator.Watcher.Lemmas.Startup
import TidbOperator.Watcher.Lemmas.Stream
import TidbOperator.Watcher.Lemmas.Mirror
import TidbOperator.Watcher.Theorems
import TidbOperator.Tidb.Platform
import TidbOperator.Tidb.Basic
import TidbOperator.Tidb.Spec
import TidbOperator.Tidb.Lemmas.Triple
import TidbOperator.Tidb.Lemmas.Wait
import TidbOperator.Tidb.Lemmas.Rollout
import TidbOperator.Tidb.Lemmas.Safety
import TidbOperator.Tidb.Lemmas.Scale
import TidbOperator.Tidb.Lemmas.Lifecycle
import TidbOperator.Tidb.Lemmas.Health
import TidbOperator.Tidb.Theorems
import TidbOperator.Job.Basic
import TidbOperator.Job.Theorems
import TidbOperator.Main

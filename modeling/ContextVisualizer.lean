import ContextVisualizer.Python.Value
import ContextVisualizer.Python.Float
import ContextVisualizer.Python.Builtins
import ContextVisualizer.Python.Compare
import ContextVisualizer.Api.Views
import ContextVisualizer.Api.Config
import ContextVisualizer.Reconcile.Reference
import ContextVisualizer.Reconcile.FirstMax
import ContextVisualizer.Reconcile.Refinement
import ContextVisualizer.Reconcile.Totality
import ContextVisualizer.Reconcile.Permutation
import ContextVisualizer.Reconcile.Ordered
import ContextVisualizer.Reconcile.Answer
import ContextVisualizer.Aggregate.Summary
import ContextVisualizer.Bench.Package
import ContextVisualizer.Build.Setup

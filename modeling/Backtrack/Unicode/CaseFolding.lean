import Backtrack.Unicode.RangeTable

/-! # Case folding

Characters with the same simple case folding form a class: a pattern that ignores case takes each
member of a class for all of them. -/

namespace Backtrack.Unicode

/-- The classes of characters that are equal when case is ignored, smallest member first: each
member after the first is written as its distance from the one before it. -/
def caseClassText : String :=
  "1t-w 1u-w 1v-w 1w-w 1x-w 1y-w 1z-w 20-w 21-w 22-w 23-w-6gv 24-w 25-w 26-w 27-w 28-w 29-w 2a-w
   2b-w-7g 2c-w 2d-w 2e-w 2f-w 2g-w 2h-w 2i-w 67-5vj 5c-w 5d-w 5e-w 5f-w 5g-w 5h-w-6di 5i-w 5j-w
   5k-w 5l-w 5m-w 5n-w 5o-w 5p-w 5q-w 5r-w 5s-w 5t-w 5u-w 5v-w 5w-w 5x-w 5y-w 60-w 61-w 62-w
   63-w 64-w 65-w 66-w 73-3d 74-1 76-1 78-1 7a-1 7c-1 7e-1 7g-1 7i-1 7k-1 7m-1 7o-1 7q-1 7s-1
   7u-1 7w-1 7y-1 80-1 82-1 84-1 86-1 88-1 8a-1 8c-1 8e-1 8i-1 8k-1 8m-1 8p-1 8r-1 8t-1 8v-1
   8x-1 8z-1 91-1 93-1 96-1 98-1 9a-1 9c-1 9e-1 9g-1 9i-1 9k-1 9m-1 9o-1 9q-1 9s-1 9u-1 9w-1
   9y-1 a0-1 a2-1 a4-1 a6-1 a8-1 aa-1 ac-1 ae-1 ah-1 aj-1 al-1 ao-5f aq-1 as-1 av-1 az-1 b5-1
   b9-2p bc-1 be-4j bi-3m bk-1 bm-1 bo-1 br-1 bw-1 bz-1 c3-1 c5-1 c8-1 cc-1 cf-1k ck-1-1 cn-1-1
   cq-1-1 ct-1 cv-1 cx-1 cz-1 d1-1 d3-1 d5-1 d7-1 b2-27 da-1 dc-1 de-1 dg-1 di-1 dk-1 dm-1 do-1
   dq-1 dt-1-1 dw-1 e0-1 e2-1 e4-1 e6-1 e8-1 ea-1 ec-1 ee-1 eg-1 ei-1 ek-1 em-1 eo-1 eq-1 es-1
   eu-1 ew-1 ey-1 f0-1 f2-1 f6-1 f8-1 fa-1 fc-1 fe-1 fg-1 fi-1 fk-1 fm-1 fv-1 fz-8cf g0-8cf g1-1
   g6-1 g8-1 ga-1 gc-1 ge-1 gg-8bj gh-8bg gi-8bi ap-5u au-5q ax-5p ay-5p b3-5m b4-5n gs-wnj
   b7-5p gx-wnf b8-5r h1-wmg h2-wn8 bb-5t ba-5v h6-wn8 h7-8af h8-wn5 bg-5v hd-8al bh-5x bj-5y
   hp-89z bq-62 hu-wn7 bt-62 hz-wmi by-62 g4-1x c1-61 c2-61 g5-1z c7-63 il-wlx im-wlu og-1 oi-1
   om-1 or-3m os-3m ot-3m p2-12 p4-11 p5-11 p6-11 pd-w pe-w-u pf-w pg-w ph-w-1s pi-w pj-w
   pk-w-p-z n9-2c-w-5j9 pm-w-1i pn-w 51-kn-w pp-w pq-w pr-w ps-w-m pt-w-1c pv-v-1 pw-w px-w
   py-w-f pz-w q0-w q1-w-5st q2-w q3-w p8-1s pa-1r pb-1r r3-8 rc-1 re-1 rg-1 ri-1 rk-1 rm-1 ro-1
   rq-1 rs-1 ru-1 rw-1 ry-1 s2-7 ov-38 s7-1 sa-1 sw-w sx-w sy-w-4su sz-w t0-w-4st t1-w t2-w t3-w
   t4-w t5-w t6-w t7-w t8-w t9-w ta-w-4sk tb-w tc-w td-w-4si te-w-4si-1 tf-w tg-w th-w ti-w tj-w
   tk-w tl-w tm-w-4sc tn-w to-w tp-w tq-w tr-w sg-28 sh-28 si-28 sj-28 sk-28 sl-28 sm-28 sn-28
   so-28 sp-28 sq-28 sr-28 ss-28 st-28 su-28 sv-28 v4-1 v6-1-4ro v8-1 va-1 vc-1 ve-1 vg-1 vi-1
   vk-1 vm-1 vo-1 vq-1 vs-1 vu-1 vw-1 vy-1 w0-1 wa-1 wc-1 we-1 wg-1 wi-1 wk-1 wm-1 wo-1 wq-1
   ws-1 wu-1 ww-1 wy-1 x0-1 x2-1 x4-1 x6-1 x8-1 xa-1 xc-1 xe-1 xg-1 xi-1 xk-1 xm-1 xo-1 xq-1
   xt-1 xv-1 xx-1 xz-1 y1-1 y3-1 y5-1 xs-f y8-1 ya-1 yc-1 ye-1 yg-1 yi-1 yk-1 ym-1 yo-1 yq-1
   ys-1 yu-1 yw-1 yy-1 z0-1 z2-1 z4-1 z6-1 z8-1 za-1 zc-1 ze-1 zg-1 zi-1 zk-1 zm-1 zo-1 zq-1
   zs-1 zu-1 zw-1 zy-1 100-1 102-1 104-1 106-1 108-1 10a-1 10c-1 10e-1 10g-1 10i-1 10k-1 10m-1
   10o-1 10q-1 10s-1 10u-1 10x-1c 10y-1c 10z-1c 110-1c 111-1c 112-1c 113-1c 114-1c 115-1c 116-1c
   117-1c 118-1c 119-1c 11a-1c 11b-1c 11c-1c 11d-1c 11e-1c 11f-1c 11g-1c 11h-1c 11i-1c 11j-1c
   11k-1c 11l-1c 11m-1c 11n-1c 11o-1c 11p-1c 11q-1c 11r-1c 11s-1c 11t-1c 11u-1c 11v-1c 11w-1c
   11x-1c 11y-1c 3bk-2bk 3bl-2bk 3bm-2bk 3bn-2bk 3bo-2bk 3bp-2bk 3bq-2bk 3br-2bk 3bs-2bk 3bt-2bk
   3bu-2bk 3bv-2bk 3bw-2bk 3bx-2bk 3by-2bk 3bz-2bk 3c0-2bk 3c1-2bk 3c2-2bk 3c3-2bk 3c4-2bk
   3c5-2bk 3c6-2bk 3c7-2bk 3c8-2bk 3c9-2bk 3ca-2bk 3cb-2bk 3cc-2bk 3cd-2bk 3ce-2bk 3cf-2bk
   3cg-2bk 3ch-2bk 3ci-2bk 3cj-2bk 3ck-2bk 3cl-2bk 3cm-2bk 3cn-2bk 3co-2bk 3cp-2bk 3cq-2bk
   3ct-2bk 3cu-2bk 3cv-2bk 3vk-tzk 3vl-tzk 3vm-tzk 3vn-tzk 3vo-tzk 3vp-tzk 3vq-tzk 3vr-tzk
   3vs-tzk 3vt-tzk 3vu-tzk 3vv-tzk 3vw-tzk 3vx-tzk 3vy-tzk 3vz-tzk 3w0-tzk 3w1-tzk 3w2-tzk
   3w3-tzk 3w4-tzk 3w5-tzk 3w6-tzk 3w7-tzk 3w8-tzk 3w9-tzk 3wa-tzk 3wb-tzk 3wc-tzk 3wd-tzk
   3we-tzk 3wf-tzk 3wg-tzk 3wh-tzk 3wi-tzk 3wj-tzk 3wk-tzk 3wl-tzk 3wm-tzk 3wn-tzk 3wo-tzk
   3wp-tzk 3wq-tzk 3wr-tzk 3ws-tzk 3wt-tzk 3wu-tzk 3wv-tzk 3ww-tzk 3wx-tzk 3wy-tzk 3wz-tzk
   3x0-tzk 3x1-tzk 3x2-tzk 3x3-tzk 3x4-tzk 3x5-tzk 3x6-tzk 3x7-tzk 3x8-tzk 3x9-tzk 3xa-tzk
   3xb-tzk 3xc-tzk 3xd-tzk 3xe-tzk 3xf-tzk 3xg-tzk 3xh-tzk 3xi-tzk 3xj-tzk 3xk-tzk 3xl-tzk
   3xm-tzk 3xn-tzk 3xo-tzk 3xp-tzk 3xq-tzk 3xr-tzk 3xs-8 3xt-8 3xu-8 3xv-8 3xw-8 3xx-8 5tl-r9g
   5tp-2xy 5u6-raw 5xc-1 5xe-1 5xg-1 5xi-1 5xk-1 5xm-1 5xo-1 5xq-1 5xs-1 5xu-1 5xw-1 5xy-1 5y0-1
   5y2-1 5y4-1 5y6-1 5y8-1 5ya-1 5yc-1 5ye-1 5yg-1 5yi-1 5yk-1 5ym-1 5yo-1 5yq-1 5ys-1 5yu-1
   5yw-1 5yy-1 5z0-1 5z2-1 5z4-1 5z6-1 5z8-1 5za-1 5zc-1 5ze-1 5zg-1 5zi-1 5zk-1 5zm-1 5zo-1
   5zq-1 5zs-1 5zu-1 5zw-1 5zy-1 600-1-1m 602-1 604-1 606-1 608-1 60a-1 60c-1 60e-1 60g-1 60i-1
   60k-1 60m-1 60o-1 60q-1 60s-1 60u-1 60w-1 60y-1 610-1 612-1 614-1 616-1 618-1 61a-1 61c-1
   61e-1 61g-1 61s-1 61u-1 61w-1 61y-1 620-1 622-1 624-1 626-1 628-1 62a-1 62c-1 62e-1 62g-1
   62i-1 62k-1 62m-1 62o-1 62q-1 62s-1 62u-1 62w-1 62y-1 630-1 632-1 634-1 636-1 638-1 63a-1
   63c-1 63e-1 63g-1 63i-1 63k-1 63m-1 63o-1 63q-1 63s-1 63u-1 63w-1 63y-1 640-1 642-1 644-1
   646-1 648-1 64a-1 64c-1 64e-1 64g-8 64h-8 64i-8 64j-8 64k-8 64l-8 64m-8 64n-8 64w-8 64x-8
   64y-8 64z-8 650-8 651-8 65c-8 65d-8 65e-8 65f-8 65g-8 65h-8 65i-8 65j-8 65s-8 65t-8 65u-8
   65v-8 65w-8 65x-8 65y-8 65z-8 668-8 669-8 66a-8 66b-8 66c-8 66d-8 66p-8 66r-8 66t-8 66v-8
   674-8 675-8 676-8 677-8 678-8 679-8 67a-8 67b-8 67k-22 67l-22 67m-2e 67n-2e 67o-2e 67p-2e
   67q-2s 67r-2s 67s-3k 67t-3k 67u-34 67v-34 67w-3i 67x-3i 680-8 681-8 682-8 683-8 684-8 685-8
   686-8 687-8 68g-8 68h-8 68i-8 68j-8 68k-8 68l-8 68m-8 68n-8 68w-8 68x-8 68y-8 68z-8 690-8
   691-8 692-8 693-8 69c-8 69d-8 69f-9 69v-9 6a8-8 6a9-8 6ao-8 6ap-8 6at-7 6b7-9 6k2-s 6lc-g
   6ld-g 6le-g 6lf-g 6lg-g 6lh-g 6li-g 6lj-g 6lk-g 6ll-g 6lm-g 6ln-g 6lo-g 6lp-g 6lq-g 6lr-g
   6mb-1 792-q 793-q 794-q 795-q 796-q 797-q 798-q 799-q 79a-q 79b-q 79c-q 79d-q 79e-q 79f-q
   79g-q 79h-q 79i-q 79j-q 79k-q 79l-q 79m-q 79n-q 79o-q 79p-q 79q-q 79r-q 8ow-1c 8ox-1c 8oy-1c
   8oz-1c 8p0-1c 8p1-1c 8p2-1c 8p3-1c 8p4-1c 8p5-1c 8p6-1c 8p7-1c 8p8-1c 8p9-1c 8pa-1c 8pb-1c
   8pc-1c 8pd-1c 8pe-1c 8pf-1c 8pg-1c 8ph-1c 8pi-1c 8pj-1c 8pk-1c 8pl-1c 8pm-1c 8pn-1c 8po-1c
   8pp-1c 8pq-1c 8pr-1c 8ps-1c 8pt-1c 8pu-1c 8pv-1c 8pw-1c 8px-1c 8py-1c 8pz-1c 8q0-1c 8q1-1c
   8q2-1c 8q3-1c 8q4-1c 8q5-1c 8q6-1c 8q7-1c 8rk-1 fu-8bv fy-8bs 8rr-1 8rt-1 8rv-1 8s2-1 8s5-1
   8sg-1 8si-1 8sk-1 8sm-1 8so-1 8sq-1 8ss-1 8su-1 8sw-1 8sy-1 8t0-1 8t2-1 8t4-1 8t6-1 8t8-1
   8ta-1 8tc-1 8te-1 8tg-1 8ti-1 8tk-1 8tm-1 8to-1 8tq-1 8ts-1 8tu-1 8tw-1 8ty-1 8u0-1 8u2-1
   8u4-1 8u6-1 8u8-1 8ua-1 8uc-1 8ue-1 8ug-1 8ui-1 8uk-1 8um-1 8uo-1 8uq-1 8us-1 8uu-1 8uw-1
   8uy-1 8v0-1 8v2-1 8v4-1 8v6-1 8vf-1 8vh-1 8vm-1 3a8-5ls 3a9-5ls 3aa-5ls 3ab-5ls 3ac-5ls
   3ad-5ls 3ae-5ls 3af-5ls 3ag-5ls 3ah-5ls 3ai-5ls 3aj-5ls 3ak-5ls 3al-5ls 3am-5ls 3an-5ls
   3ao-5ls 3ap-5ls 3aq-5ls 3ar-5ls 3as-5ls 3at-5ls 3au-5ls 3av-5ls 3aw-5ls 3ax-5ls 3ay-5ls
   3az-5ls 3b0-5ls 3b1-5ls 3b2-5ls 3b3-5ls 3b4-5ls 3b5-5ls 3b6-5ls 3b7-5ls 3b8-5ls 3b9-5ls
   3bb-5ls 3bh-5ls wu8-1 wua-1 wuc-1 wue-1 wug-1 5mw-r7m-1 wuk-1 wum-1 wuo-1 wuq-1 wus-1 wuu-1
   wuw-1 wuy-1 wv0-1 wv2-1 wv4-1 wv6-1 wv8-1 wva-1 wvc-1 wve-1 wvg-1 ww0-1 ww2-1 ww4-1 ww6-1
   ww8-1 wwa-1 wwc-1 wwe-1 wwg-1 wwi-1 wwk-1 wwm-1 wwo-1 wwq-1 x0i-1 x0k-1 x0m-1 x0o-1 x0q-1
   x0s-1 x0u-1 x0y-1 x10-1 x12-1 x14-1 x16-1 x18-1 x1a-1 x1c-1 x1e-1 x1g-1 x1i-1 x1k-1 x1m-1
   x1o-1 x1q-1 x1s-1 x1u-1 x1w-1 x1y-1 x20-1 x22-1 x24-1 x26-1 x28-1 x2a-1 x2c-1 x2e-1 x2g-1
   x2i-1 x2k-1 x2m-1 x2x-1 x2z-1 x32-1 x34-1 x36-1 x38-1 x3a-1 x3f-1 x3k-1 x3m-1 x3o-1c x3q-1
   x3s-1 x3u-1 x3w-1 x3y-1 x40-1 x42-1 x44-1 x46-1 x48-1 x4k-1 x4m-1 x4o-1 x4q-1 x4s-1 x4u-1
   x4w-1 x4y-1 x53-1 x55-1 x5c-1 x5i-1 x5k-1 x6d-1 x4j-ps 1ee9-w 1eea-w 1eeb-w 1eec-w 1eed-w
   1eee-w 1eef-w 1eeg-w 1eeh-w 1eei-w 1eej-w 1eek-w 1eel-w 1eem-w 1een-w 1eeo-w 1eep-w 1eeq-w
   1eer-w 1ees-w 1eet-w 1eeu-w 1eev-w 1eew-w 1eex-w 1eey-w 1fcw-14 1fcx-14 1fcy-14 1fcz-14
   1fd0-14 1fd1-14 1fd2-14 1fd3-14 1fd4-14 1fd5-14 1fd6-14 1fd7-14 1fd8-14 1fd9-14 1fda-14
   1fdb-14 1fdc-14 1fdd-14 1fde-14 1fdf-14 1fdg-14 1fdh-14 1fdi-14 1fdj-14 1fdk-14 1fdl-14
   1fdm-14 1fdn-14 1fdo-14 1fdp-14 1fdq-14 1fdr-14 1fds-14 1fdt-14 1fdu-14 1fdv-14 1fdw-14
   1fdx-14 1fdy-14 1fdz-14 1fhs-14 1fht-14 1fhu-14 1fhv-14 1fhw-14 1fhx-14 1fhy-14 1fhz-14
   1fi0-14 1fi1-14 1fi2-14 1fi3-14 1fi4-14 1fi5-14 1fi6-14 1fi7-14 1fi8-14 1fi9-14 1fia-14
   1fib-14 1fic-14 1fid-14 1fie-14 1fif-14 1fig-14 1fih-14 1fii-14 1fij-14 1fik-14 1fil-14
   1fim-14 1fin-14 1fio-14 1fip-14 1fiq-14 1fir-14 1fn4-13 1fn5-13 1fn6-13 1fn7-13 1fn8-13
   1fn9-13 1fna-13 1fnb-13 1fnc-13 1fnd-13 1fne-13 1fng-13 1fnh-13 1fni-13 1fnj-13 1fnk-13
   1fnl-13 1fnm-13 1fnn-13 1fno-13 1fnp-13 1fnq-13 1fnr-13 1fns-13 1fnt-13 1fnu-13 1fnw-13
   1fnx-13 1fny-13 1fnz-13 1fo0-13 1fo1-13 1fo2-13 1fo4-13 1fo5-13 1h1c-1s 1h1d-1s 1h1e-1s
   1h1f-1s 1h1g-1s 1h1h-1s 1h1i-1s 1h1j-1s 1h1k-1s 1h1l-1s 1h1m-1s 1h1n-1s 1h1o-1s 1h1p-1s
   1h1q-1s 1h1r-1s 1h1s-1s 1h1t-1s 1h1u-1s 1h1v-1s 1h1w-1s 1h1x-1s 1h1y-1s 1h1z-1s 1h20-1s
   1h21-1s 1h22-1s 1h23-1s 1h24-1s 1h25-1s 1h26-1s 1h27-1s 1h28-1s 1h29-1s 1h2a-1s 1h2b-1s
   1h2c-1s 1h2d-1s 1h2e-1s 1h2f-1s 1h2g-1s 1h2h-1s 1h2i-1s 1h2j-1s 1h2k-1s 1h2l-1s 1h2m-1s
   1h2n-1s 1h2o-1s 1h2p-1s 1h2q-1s 1jfk-w 1jfl-w 1jfm-w 1jfn-w 1jfo-w 1jfp-w 1jfq-w 1jfr-w
   1jfs-w 1jft-w 1jfu-w 1jfv-w 1jfw-w 1jfx-w 1jfy-w 1jfz-w 1jg0-w 1jg1-w 1jg2-w 1jg3-w 1jg4-w
   1jg5-w 1jg6-w 1jg7-w 1jg8-w 1jg9-w 1jga-w 1jgb-w 1jgc-w 1jgd-w 1jge-w 1jgf-w 20cg-w 20ch-w
   20ci-w 20cj-w 20ck-w 20cl-w 20cm-w 20cn-w 20co-w 20cp-w 20cq-w 20cr-w 20cs-w 20ct-w 20cu-w
   20cv-w 20cw-w 20cx-w 20cy-w 20cz-w 20d0-w 20d1-w 20d2-w 20d3-w 20d4-w 20d5-w 20d6-w 20d7-w
   20d8-w 20d9-w 20da-w 20db-w 2olc-y 2old-y 2ole-y 2olf-y 2olg-y 2olh-y 2oli-y 2olj-y 2olk-y
   2oll-y 2olm-y 2oln-y 2olo-y 2olp-y 2olq-y 2olr-y 2ols-y 2olt-y 2olu-y 2olv-y 2olw-y 2olx-y
   2oly-y 2olz-y 2om0-y 2om1-y 2om2-y 2om3-y 2om4-y 2om5-y 2om6-y 2om7-y 2om8-y 2om9-y"

/-- The classes of characters that are equal when case is ignored. -/
def caseClasses : List (List Nat) :=
  (partsOf (!·.isWhitespace) caseClassText.toList).map fun entry => runningSums 0 (numbers entry)

/-- The set with every character that equals a member when case is ignored. -/
def foldCase (s : CharSet) : CharSet :=
  let added := caseClasses.filter fun members => members.any s.hasCode
  if added.isEmpty then s
  else s.union (.ofRanges (added.flatten.map fun n => ⟨n, n⟩))

/-- The set with both cases of every ASCII letter that is a member in one of them. -/
def foldAsciiCase (s : CharSet) : CharSet :=
  let letters := (List.range 26).filter fun i => s.hasCode (0x41 + i) || s.hasCode (0x61 + i)
  if letters.isEmpty then s
  else s.union (.ofRanges (letters.flatMap fun i => [⟨0x41 + i, 0x41 + i⟩, ⟨0x61 + i, 0x61 + i⟩]))

end Backtrack.Unicode
